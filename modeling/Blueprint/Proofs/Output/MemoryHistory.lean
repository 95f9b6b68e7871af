import Blueprint.Proofs.Output.MemoryFiles
import Blueprint.Proofs.PathOrder
import Mathlib.Data.List.Induction

/-!
# What was put into memory

Files come into memory as seeds or by writes, in any order. Under the components of a path the last
one that was put there is read, and the path is listed once, as the first one spelled it. What is
listed increases by components.
-/

namespace Blueprint.MemoryFiles

variable {m : MemoryFiles} {p q : Path}

/-! ### The order of what is listed -/

def Ordered (m : MemoryFiles) : Prop := m.paths.Pairwise fun p q => p.components < q.components

/-- A path that is there keeps its spelling. Any other comes between the smaller and the greater. -/
theorem Ordered.insert_cases (h : m.Ordered) (p : Path) (content : String) :
    (∃ q ∈ m.paths, p.same q ∧ (m.insert p content).paths = m.paths) ∨
    ∃ before after, m.paths = before ++ after ∧
      (m.insert p content).paths = before ++ p :: after ∧
      (∀ q ∈ before, q.components < p.components) ∧ ∀ q ∈ after, p.components < q.components := by
  obtain ⟨es⟩ := m
  induction es with
  | nil => exact .inr ⟨[], [], rfl, rfl, by simp, by simp⟩
  | cons e es ih =>
      obtain ⟨q, old⟩ := e
      obtain ⟨hq, hes⟩ := List.pairwise_cons.mp h
      have hpq := Path.compare_compares p q
      rw [insert, insertEntry]
      cases hc : p.compare q with
      | lt =>
          have hlt : p.components < q.components := hpq.eq_lt.mp hc
          refine .inr ⟨[], q :: paths ⟨es⟩, rfl, rfl, by simp, ?_⟩
          exact List.forall_mem_cons.mpr ⟨hlt, fun r hr => hlt.trans (hq r hr)⟩
      | eq => exact .inl ⟨q, List.mem_cons_self, Path.same_iff.mpr (hpq.eq_eq.mp hc), rfl⟩
      | gt =>
          obtain ⟨r, hr, hsame, hpaths⟩ | ⟨before, after, hpaths, hinsert, hbefore, hafter⟩ :=
            ih hes
          · exact .inl ⟨r, List.mem_cons_of_mem q hr, hsame, congrArg (q :: ·) hpaths⟩
          · have hlt : q.components < p.components := hpq.eq_gt.mp hc
            exact .inr ⟨q :: before, after, congrArg (q :: ·) hpaths, congrArg (q :: ·) hinsert,
              List.forall_mem_cons.mpr ⟨hlt, hbefore⟩, hafter⟩

theorem Ordered.insert (h : m.Ordered) (p : Path) (content : String) :
    (m.insert p content).Ordered := by
  obtain ⟨_, _, _, hpaths⟩ | ⟨before, after, hpaths, hinsert, hbefore, hafter⟩ :=
    h.insert_cases p content
  · rwa [Ordered, hpaths]
  · rw [Ordered, hpaths, List.pairwise_append] at h
    obtain ⟨hb, ha, hba⟩ := h
    rw [Ordered, hinsert, List.pairwise_append, List.pairwise_cons]
    exact ⟨hb, ⟨hafter, ha⟩, fun q hq => List.forall_mem_cons.mpr ⟨hbefore q hq, hba q hq⟩⟩

theorem filter_same_eq_nil {ps : List Path} (hpq : p.same q)
    (h : ∀ r ∈ ps, r.components ≠ q.components) : ps.filter p.same = [] := by
  rw [List.filter_eq_nil_iff]
  intro r hr hpr
  exact h r hr ((Path.same_iff.mp hpr).symm.trans (Path.same_iff.mp hpq))

theorem Ordered.filter_paths_insert (h : m.Ordered) (p q : Path) (content : String) :
    (m.insert q content).paths.filter p.same =
      if p.same q ∧ m.paths.filter p.same = [] then [q] else m.paths.filter p.same := by
  obtain ⟨r, hr, hqr, hpaths⟩ | ⟨before, after, hpaths, hinsert, hbefore, hafter⟩ :=
    h.insert_cases q content
  · have hlisted : ¬ (p.same q ∧ m.paths.filter p.same = []) := by
      rintro ⟨hpq, hnone⟩
      have hpr : p.same r :=
        Path.same_iff.mpr ((Path.same_iff.mp hpq).trans (Path.same_iff.mp hqr))
      exact List.filter_eq_nil_iff.mp hnone r hr hpr
    rw [hpaths, if_neg hlisted]
  · rw [hinsert, hpaths, List.filter_append, List.filter_append, List.filter_cons]
    by_cases hpq : p.same q
    · -- What stands around the new path is smaller or greater, so the new one is alone.
      have hb : before.filter p.same = [] :=
        filter_same_eq_nil hpq fun r hr => (hbefore r hr).ne
      have ha : after.filter p.same = [] :=
        filter_same_eq_nil hpq fun r hr => (hafter r hr).ne'
      simp [hpq, hb, ha]
    · simp [hpq]

/-! ### Histories -/

/-- A file that comes into memory, before a run or in it. -/
inductive Put where
  | seed (p : Path) (content : String)
  | write (p : Path) (content : String)

namespace Put

def path : Put → Path
  | .seed p _ => p
  | .write p _ => p

def content : Put → String
  | .seed _ content => content
  | .write _ content => content

/-- What memory holds after it. -/
def apply (m : MemoryFiles) : Put → MemoryFiles
  | .seed p content => m.insert p content
  | .write p content => (FileSystem.write m p content).2

theorem apply_eq (m : MemoryFiles) (w : Put) : apply m w = m.insert w.path w.content := by
  cases w <;> rfl

end Put

def ofPuts (puts : List Put) : MemoryFiles := puts.foldl Put.apply empty

/-- The first file that was put under the components of a path. -/
def firstPut? (puts : List Put) (p : Path) : Option Put := puts.find? fun w => p.same w.path

/-- The last file that was put under the components of a path. -/
def lastPut? (puts : List Put) (p : Path) : Option Put := puts.reverse.find? fun w => p.same w.path

section Concat

variable (puts : List Put) (w : Put) (p : Path)

theorem ofPuts_concat : ofPuts (puts ++ [w]) = (ofPuts puts).insert w.path w.content := by
  rw [ofPuts, List.foldl_concat, Put.apply_eq, ofPuts]

theorem firstPut?_concat : firstPut? (puts ++ [w]) p =
    (firstPut? puts p).or (if p.same w.path then some w else none) := by
  rw [firstPut?, List.find?_append, List.find?_singleton, firstPut?]

theorem lastPut?_concat : lastPut? (puts ++ [w]) p =
    if p.same w.path then some w else lastPut? puts p := by
  rw [lastPut?, List.reverse_concat, List.find?_cons, lastPut?]
  cases p.same w.path <;> rfl

end Concat

theorem ordered_ofPuts (puts : List Put) : (ofPuts puts).Ordered := by
  induction puts using List.reverseRecOn with
  | nil => exact .nil
  | append_singleton puts w ih =>
      rw [ofPuts_concat]
      exact ih.insert w.path w.content

theorem get?_ofPuts (puts : List Put) (p : Path) :
    (ofPuts puts).get? p = (lastPut? puts p).map Put.content := by
  induction puts using List.reverseRecOn with
  | nil => rfl
  | append_singleton puts w ih =>
      rw [ofPuts_concat, get?_insert, ih, lastPut?_concat]
      split_ifs <;> rfl

theorem filter_paths_ofPuts (puts : List Put) (p : Path) :
    (ofPuts puts).paths.filter p.same = ((firstPut? puts p).map Put.path).toList := by
  induction puts using List.reverseRecOn with
  | nil => rfl
  | append_singleton puts w ih =>
      rw [ofPuts_concat, (ordered_ofPuts puts).filter_paths_insert, ih, firstPut?_concat]
      cases firstPut? puts p with
      | none => by_cases h : p.same w.path <;> simp [h]
      | some first => simp

theorem read_ofPuts (puts : List Put) (p : Path) :
    FileSystem.read (ofPuts puts) p = match lastPut? puts p with
      | some w => .ok w.content
      | none => .error (.notFound p) := by
  rw [read_eq, get?_ofPuts]
  cases lastPut? puts p <;> rfl

/-- Every write succeeds and goes on with the history. What is read, what exists and what is listed
is told by the history alone. -/
theorem reads_last_and_lists_first (puts : List Put) :
    (∀ p content, FileSystem.write (ofPuts puts) p content =
      (.ok (), ofPuts (puts ++ [.write p content]))) ∧
    (∀ p, FileSystem.read (ofPuts puts) p = match lastPut? puts p with
      | some w => .ok w.content
      | none => .error (.notFound p)) ∧
    (∀ p, FileSystem.present (ofPuts puts) p ↔
      ∃ content, FileSystem.read (ofPuts puts) p = .ok content) ∧
    (ofPuts puts).paths.Pairwise (fun p q => p.components < q.components) ∧
    ∀ p, (ofPuts puts).paths.filter p.same = ((firstPut? puts p).map Put.path).toList := by
  refine ⟨fun p content => ?_, read_ofPuts puts, fun p => ?_, ordered_ofPuts puts,
    filter_paths_ofPuts puts⟩
  · rw [ofPuts_concat]
    rfl
  · rw [read_ofPuts, present_eq, get?_ofPuts, Option.isSome_map]
    cases lastPut? puts p <;> simp

example : (ofPuts [.seed ⟨"b"⟩ "1", .write ⟨"a//c"⟩ "2", .write ⟨"a/c/."⟩ "3",
    .write ⟨"./b"⟩ "4"]).paths = [⟨"./b"⟩, ⟨"a//c"⟩, ⟨"b"⟩] := by decide

end Blueprint.MemoryFiles
