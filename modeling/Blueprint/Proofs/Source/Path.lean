import Blueprint.Proofs.Output.Resolve
import Blueprint.Source.File

/-!
# Paths of source files

A source path goes down the two folders of its kind and continues by the name of the block and the
extension of the language. It always has names, so it resolves unless the name of the block leads
upwards. A block name without separators makes one file name, and then different paths have
different names.
-/

namespace Blueprint

/-- The folders of a kind, from the top. -/
def Kind.folders : Kind → List String
  | .valueObject => ["Domain", "ValueObjects"]
  | .entity => ["Domain", "Entities"]
  | .aggregate => ["Domain", "Aggregates"]
  | .repository => ["Application", "Ports"]
  | .useCase => ["Application", "UseCases"]

namespace Kind

theorem named_directory (k : Kind) : (Path.mk k.directory).named = k.folders.map .name := by
  cases k <;> rfl

theorem toList_directory (k : Kind) :
    ∃ c t, k.directory.toList = '/' :: c :: t ∧ c ≠ '/' ∧ c ≠ '\\' := by
  cases k <;> exact ⟨_, _, rfl, by decide, by decide⟩

theorem length_folders (k : Kind) : k.folders.length = 2 := by cases k <;> rfl

theorem folders_injective {k k' : Kind} (h : k.folders = k'.folders) : k = k' := by
  revert h
  cases k <;> cases k' <;> decide

end Kind

theorem isName_append {name rest : String} (hname : '/' ∉ name.toList)
    (hrest : IsName ("." ++ rest)) : IsName (name ++ "." ++ rest) := by
  by_cases hempty : name = ""
  · rwa [hempty, String.empty_append]
  · have hrest0 : rest ≠ "" := fun h => hrest.2.2.1 (by rw [h]; rfl)
    have hlen : 3 ≤ (name ++ "." ++ rest).toList.length := by
      have hn := List.length_pos_iff.mpr (String.toList_eq_nil_iff.not.mpr hempty)
      have hr := List.length_pos_iff.mpr (String.toList_eq_nil_iff.not.mpr hrest0)
      simp only [String.toList_append, List.length_append]
      change 3 ≤ name.toList.length + 1 + rest.toList.length
      omega
    have hne (s : String) (hs : s.toList.length < 3) : name ++ "." ++ rest ≠ s := by
      rintro rfl
      omega
    refine ⟨?_, hne "" (by decide), hne "." (by decide), hne ".." (by decide)⟩
    have hslash := hrest.1
    simp only [String.toList_append, List.mem_append, not_or] at hslash ⊢
    exact ⟨⟨hname, hslash.1⟩, hslash.2⟩

namespace Language

variable (l : Language) (k : Kind) (name : String)

/-- The last part of a source path, as long as it is one part. -/
def fileName (name : String) : String := name ++ "." ++ l.extension

theorem toList_path :
    (l.path k name).toList = k.directory.toList ++ '/' :: (l.fileName name).toList := by
  simp [path, fileName]

theorem named_path : (Path.mk (l.path k name)).named =
    k.folders.map .name ++ (Path.mk (l.fileName name)).named := by
  rw [← k.named_directory]
  exact Path.named_of_slash (l.toList_path k name)

theorem named_relative_path :
    (Output.relative (l.path k name)).named = (Path.mk (l.path k name)).named := by
  obtain ⟨c, t, ht, hslash, hback⟩ := k.toList_directory
  have hpath := l.toList_path k name
  rw [ht] at hpath
  exact Output.named_relative hpath (by simp [hslash, hback])

theorem parent_mem_relative_path_iff :
    .parent ∈ (Output.relative (l.path k name)).components ↔
      .parent ∈ (Path.mk (l.path k name)).components := by
  rw [Path.parent_mem_components_iff, Path.parent_mem_components_iff, l.named_relative_path]

theorem names_path : Output.names (l.path k name) =
    k.folders ++ (Path.mk (l.fileName name)).named.filterMap Component.name? := by
  have hfolders : (k.folders.map Component.name).filterMap Component.name? = k.folders := by
    rw [List.filterMap_map]
    exact List.filterMap_some
  rw [Output.names_eq, l.named_relative_path, l.named_path, List.filterMap_append, hfolders]

theorem names_path_ne_nil : Output.names (l.path k name) ≠ [] := by
  rw [l.names_path]
  cases k <;> simp [Kind.folders]

theorem exists_resolve_path_iff {root : Path} :
    (∃ target, Output.resolve root (l.path k name) = .ok target) ↔
      .parent ∉ (Path.mk (l.path k name)).components := by
  simp [Output.resolve_eq_ok_iff, l.parent_mem_relative_path_iff, l.names_path_ne_nil]

section FileName

variable {name : String} (h : IsName (l.fileName name))
include h

theorem names_path_of_isName : Output.names (l.path k name) = k.folders ++ [l.fileName name] := by
  rw [l.names_path, Path.named_of_isName h]
  rfl

theorem exists_resolve_path (root : Path) :
    ∃ target, Output.resolve root (l.path k name) = .ok target := by
  rw [l.exists_resolve_path_iff, Path.parent_mem_components_iff, l.named_path,
    Path.named_of_isName h]
  simp

theorem path_eq_of_names {k' : Kind} {name' : String} (h' : IsName (l.fileName name'))
    (hnames : Output.names (l.path k name) = Output.names (l.path k' name')) :
    l.path k name = l.path k' name' := by
  rw [l.names_path_of_isName k h, l.names_path_of_isName k' h'] at hnames
  obtain ⟨hfolders, hfile⟩ := List.append_inj hnames (by rw [k.length_folders, k'.length_folders])
  obtain rfl := Kind.folders_injective hfolders
  rw [← String.toList_inj, toList_path, toList_path, List.singleton_inj.mp hfile]

end FileName

end Language

/-! ### The sources of a graph -/

namespace Graph

/-- No block has a separator in its name. -/
def Flat (g : Graph) : Prop := ∀ k, ∀ n ∈ g.nodes k, '/' ∉ (k.nodeName n).toList

variable {g : Graph} {l : Language} {f : SourceFile}

theorem exists_node_of_mem_sources (hf : f ∈ g.sources l) :
    ∃ k, ∃ n ∈ g.nodes k, f.path = l.path k (k.nodeName n) := by
  obtain ⟨k, _, hk⟩ := List.mem_flatMap.mp hf
  obtain ⟨n, hn, rfl⟩ := List.mem_map.mp hk
  exact ⟨k, n, hn, rfl⟩

theorem exists_resolve_source_iff (hf : f ∈ g.sources l) {root : Path} :
    (∃ target, Output.resolve root f.path = .ok target) ↔
      .parent ∉ (Path.mk f.path).components := by
  obtain ⟨k, n, _, hpath⟩ := exists_node_of_mem_sources hf
  rw [hpath]
  exact l.exists_resolve_path_iff k _

section Flat

variable (hg : g.Flat) (hl : IsName ("." ++ l.extension))
include hg hl

theorem exists_isName_of_mem_sources (hf : f ∈ g.sources l) :
    ∃ k name, f.path = l.path k name ∧ IsName (l.fileName name) := by
  obtain ⟨k, n, hn, hpath⟩ := exists_node_of_mem_sources hf
  exact ⟨k, _, hpath, isName_append (hg k n hn) hl⟩

theorem exists_resolve_of_flat (root : Path) (hf : f ∈ g.sources l) :
    ∃ target, Output.resolve root f.path = .ok target := by
  obtain ⟨k, name, hpath, hname⟩ := exists_isName_of_mem_sources hg hl hf
  rw [hpath]
  exact l.exists_resolve_path k hname root

theorem path_eq_of_flat {f' : SourceFile} (hf : f ∈ g.sources l) (hf' : f' ∈ g.sources l)
    (hnames : Output.names f.path = Output.names f'.path) : f.path = f'.path := by
  obtain ⟨k, name, hpath, hname⟩ := exists_isName_of_mem_sources hg hl hf
  obtain ⟨k', name', hpath', hname'⟩ := exists_isName_of_mem_sources hg hl hf'
  rw [hpath, hpath'] at hnames ⊢
  exact l.path_eq_of_names k hname hname' hnames

end Flat

end Graph

end Blueprint
