import Blueprint.Json.Decode
import Blueprint.Proofs.Keyed
import Mathlib.Data.List.Induction

/-!
# Members of sorted objects

Sorting the members of an object changes their order but not what is found under a key: the last
member with it. Their keys increase afterwards, and members whose keys increase stay as they are.
-/

namespace Blueprint.Json

theorem insertMember_eq (m : Member) (ms : List Member) :
    insertMember m ms = Keyed.insert m.1 m.2 ms := by
  induction ms with
  | nil => rfl
  | cons n rest ih =>
      rw [insertMember, Keyed.insert, Keyed.compare_eq, ih]
      split_ifs <;> rfl

theorem find?_insertMember (m : Member) (ms : List Member) (key : String) :
    (insertMember m ms).find? (·.1 == key) =
      if m.1 = key then some m else ms.find? (·.1 == key) := by
  rw [insertMember_eq, Keyed.find?_insert]

theorem find?_sortMembers (ms : List Member) (key : String) :
    (sortMembers ms).find? (·.1 == key) = ms.reverse.find? (·.1 == key) := by
  have h (sorted : List Member) : (ms.foldl (fun sorted m => insertMember m sorted) sorted).find?
      (·.1 == key) = (ms.reverse.find? (·.1 == key)).or (sorted.find? (·.1 == key)) := by
    induction ms generalizing sorted with
    | nil => rfl
    | cons m ms ih =>
        rw [List.foldl_cons, ih, List.reverse_cons, List.find?_append, find?_insertMember,
          Option.or_assoc]
        congr 1
        by_cases hm : m.1 = key <;> simp [hm]
  rw [sortMembers, h, List.find?_nil, Option.or_none]

theorem optional_sortMembers {α : Type} (ms : List Member) (key : String)
    (decode : Value → Except Misfit α) :
    optional (sortMembers ms) key decode = optional ms.reverse key decode := by
  rw [optional, optional, find?_sortMembers]

theorem Value.member?_record (ms : List Member) (key : String) :
    (Value.record ms).member? key = (ms.reverse.find? (·.1 == key)).map (·.2) := by
  rw [record, member?, find?_sortMembers]

theorem Value.isSome_member?_record (ms : List Member) (key : String) :
    ((Value.record ms).member? key).isSome ↔ key ∈ ms.map Prod.fst := by
  simp [member?_record]

/-! ### Order -/

theorem sortMembers_concat (ms : List Member) (m : Member) :
    sortMembers (ms ++ [m]) = insertMember m (sortMembers ms) := by
  rw [sortMembers, List.foldl_append]
  rfl

theorem mem_of_mem_sortMembers {m : Member} {ms : List Member} (h : m ∈ sortMembers ms) :
    m ∈ ms := by
  induction ms using List.reverseRecOn with
  | nil => exact h
  | append_singleton ms n ih =>
      rw [sortMembers_concat, insertMember_eq] at h
      rcases Keyed.eq_or_mem_of_mem_insert h with rfl | h
      · exact List.mem_append_right _ (List.mem_singleton_self _)
      · exact List.mem_append_left _ (ih h)

theorem sorted_sortMembers (ms : List Member) : Keyed.Sorted (sortMembers ms) := by
  induction ms using List.reverseRecOn with
  | nil => exact List.Pairwise.nil
  | append_singleton ms m ih =>
      rw [sortMembers_concat, insertMember_eq]
      exact ih.insert m.1 m.2

theorem sortMembers_of_sorted {ms : List Member} (h : Keyed.Sorted ms) : sortMembers ms = ms := by
  induction ms using List.reverseRecOn with
  | nil => rfl
  | append_singleton ms m ih =>
      obtain ⟨hms, -, hlt⟩ := List.pairwise_append.mp h
      rw [sortMembers_concat, ih hms, insertMember_eq]
      exact Keyed.insert_of_forall_lt fun n hn => hlt n hn m (List.mem_singleton_self m)

theorem map_sortMembers (f : Value → Value) (ms : List Member) :
    (sortMembers ms).map (Prod.map id f) = sortMembers (ms.map (Prod.map id f)) := by
  induction ms using List.reverseRecOn with
  | nil => rfl
  | append_singleton ms m ih =>
      rw [sortMembers_concat, insertMember_eq, Keyed.map_insert, ih, List.map_append,
        List.map_singleton, sortMembers_concat, insertMember_eq]
      rfl

end Blueprint.Json
