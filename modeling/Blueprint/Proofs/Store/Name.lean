import Blueprint.Proofs.Disk.Change
import Blueprint.Store.Directory

/-!
# Projects and their files

A project that may have its name has a file of its own, and the name is read back from the name of
the file. The files that stand for projects are exactly those.
-/

namespace Blueprint

/-! ### Extensions -/

section Extension

variable {name ext file : String}

theorem splitExtension_append (hname : name ≠ "") (hext : '.' ∉ ext.toList) :
    splitExtension (name ++ "." ++ ext) = (name, some ext) := by
  obtain ⟨c, stem, hstem⟩ : ∃ c stem, name.toList.reverse = c :: stem :=
    List.exists_cons_of_ne_nil (by simpa using hname)
  have hback : (name ++ "." ++ ext).toList.reverse = ext.toList.reverse ++ '.' :: c :: stem := by
    simp [hstem]
  have htail : (ext.toList.reverse ++ '.' :: c :: stem).takeWhile (· != '.') =
      ext.toList.reverse := by
    have hne : ∀ a ∈ ext.toList.reverse, (a != '.') = true := by
      intro a ha
      exact bne_iff_ne.mpr fun h => hext (by simpa [h] using ha)
    rw [List.takeWhile_append_of_pos hne]
    simp
  have hrev : (c :: stem).reverse = name.toList := by rw [← hstem, List.reverse_reverse]
  rw [splitExtension, hback, htail, List.drop_left]
  simp only [hrev, List.reverse_reverse, String.ofList_toList]

theorem eq_append_of_splitExtension (h : splitExtension file = (name, some ext)) :
    file = name ++ "." ++ ext ∧ name ≠ "" := by
  let back := file.toList.reverse
  have hback : back = back.takeWhile (· != '.') ++ back.dropWhile (· != '.') :=
    List.takeWhile_append_dropWhile.symm
  have hdrop : back.drop (back.takeWhile (· != '.')).length = back.dropWhile (· != '.') := by
    conv_lhs => arg 2; rw [hback]
    exact List.drop_left
  rw [splitExtension, hdrop] at h
  split at h
  · rename_i c a stem hsplit
    obtain ⟨rfl, rfl⟩ : String.ofList (a :: stem).reverse = name ∧
        String.ofList (back.takeWhile (· != '.')).reverse = ext := by simpa using h
    have hdot : c = '.' := by
      have hhead := List.head_dropWhile_not (· != '.') (l := back) (by simp [hsplit])
      simpa [hsplit] using hhead
    rw [hsplit, hdot] at hback
    refine ⟨String.toList_inj.mp ?_, by simp⟩
    have hfile : file.toList = back.reverse := (List.reverse_reverse _).symm
    rw [hfile]
    conv_lhs => rw [hback]
    simp [back]
  · cases h

end Extension

namespace ProjectName

variable {name : String} (h : check name = .ok ())
include h

theorem fault?_of_check : fault? name = none := by
  rw [check] at h
  cases hfault : fault? name with
  | none => rfl
  | some reason => simp [hfault] at h

theorem ne_empty_of_check : name ≠ "" := by
  rintro rfl
  exact absurd h (by decide)

theorem not_mem_of_check : '/' ∉ name.toList ∧ '\x00' ∉ name.toList := by
  have hfault := fault?_of_check h
  rw [fault?] at hfault
  split_ifs at hfault with hblank hdots hseparator hcontrol
  constructor
  · intro hmem
    exact hseparator (List.any_eq_true.mpr ⟨_, hmem, by decide⟩)
  · intro hmem
    exact hcontrol (List.any_eq_true.mpr ⟨_, hmem, by decide⟩)

end ProjectName

namespace DirectoryStore

/-- The name of the file of a project. -/
def fileOf (name : String) : String := name ++ "." ++ fileExtension

theorem projectPath_eq (s : DirectoryStore) (name : String) :
    s.projectPath name = s.dir.push (fileOf name) := rfl

/-- The project that a file stands for. -/
def projectOf? (file : String) : Option String :=
  match splitExtension file with
  | (name, some ext) => if ext = fileExtension then some name else none
  | _ => none

variable {file name : String}

theorem projectOf?_eq_some_iff : projectOf? file = some name ↔ file = fileOf name ∧ name ≠ "" := by
  constructor
  · intro h
    rw [projectOf?] at h
    split at h
    · rename_i stem ext hsplit
      split_ifs at h with hext
      cases h
      rw [hext] at hsplit
      exact eq_append_of_splitExtension hsplit
    · cases h
  · rintro ⟨rfl, hname⟩
    rw [projectOf?, fileOf, splitExtension_append hname (by decide)]
    simp

theorem projectOf?_lockName : projectOf? lockName = none := by decide

theorem fileOf_ne_lockName (h : name ≠ "") : fileOf name ≠ lockName := by
  intro hfile
  have hproject := projectOf?_eq_some_iff.mpr ⟨hfile.symm, h⟩
  rw [projectOf?_lockName] at hproject
  cases hproject

theorem fileOf_injective : Function.Injective fileOf := by
  intro a b h
  simpa [fileOf] using h

theorem isName_fileOf (h : '/' ∉ name.toList) : IsName (fileOf name) := by
  have hlength : (fileOf name).length = name.length + 5 := by
    rw [fileOf, String.length_append, String.length_append]
    rfl
  have hshort : ∀ t : String, t.length < 5 → fileOf name ≠ t := by
    rintro t ht rfl
    omega
  exact ⟨by simpa [fileOf, fileExtension] using h, hshort "" (by decide), hshort "." (by decide),
    hshort ".." (by decide)⟩

theorem isName_lockName : IsName lockName := by
  refine ⟨?_, ?_, ?_, ?_⟩ <;> decide

end DirectoryStore

end Blueprint
