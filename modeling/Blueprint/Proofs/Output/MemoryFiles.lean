import Blueprint.Output.FileSystem
import Blueprint.Proofs.Path

/-!
# Files in memory

A write is seen under every path with the components of its own, and under those paths only. Nothing
here asks that the entries are in order.
-/

namespace Blueprint.MemoryFiles

variable (m : MemoryFiles) (p q : Path) (content : String)

theorem read_eq : FileSystem.read m p = (m.get? p).elim (.error (.notFound p)) .ok := by
  cases h : m.get? p <;> simp [FileSystem.read, h]

theorem present_eq : FileSystem.present m p = (m.get? p).isSome := rfl

theorem find?_insertEntry (es : List (Path × String)) :
    ((insertEntry p content es).find? fun e => q.same e.1).map (·.2) =
      if q.same p then some content else (es.find? fun e => q.same e.1).map (·.2) := by
  induction es with
  | nil => by_cases h : q.same p <;> simp [insertEntry, h]
  | cons e es ih =>
      obtain ⟨r, old⟩ := e
      rw [insertEntry]
      cases hc : p.compare r with
      | lt => by_cases h : q.same p <;> simp [h]
      | eq =>
          have hpr : q.same r = q.same p := by
            rw [Path.same, Path.same, Path.compare_eq_iff.mp hc]
          by_cases h : q.same p <;> simp [hpr, h]
      | gt =>
          by_cases hqr : q.same r
          · -- The entry passed over is found first, and it is none of the path's own.
            have hqp : ¬ q.same p := by
              rw [Path.same_iff] at hqr ⊢
              intro hqp
              have hpr : p.compare r = .eq := Path.compare_eq_iff.mpr (hqp.symm.trans hqr)
              rw [hc] at hpr
              cases hpr
            simp [hqr, hqp]
          · simp [hqr, ih]

theorem get?_insert : (m.insert p content).get? q =
    if q.same p then some content else m.get? q := find?_insertEntry p q content m.entries

theorem get?_insert_of_same {p q : Path} (h : q.same p) :
    (m.insert p content).get? q = some content := by rw [get?_insert, if_pos h]

theorem get?_insert_of_not_same {p q : Path} (h : ¬ q.same p) :
    (m.insert p content).get? q = m.get? q := by rw [get?_insert, if_neg h]

end Blueprint.MemoryFiles
