import Mathlib.Data.List.Infix
import Mathlib.Data.List.Induction
import Mathlib.Order.Bounds.Basic
import Mathlib.Order.MinMax
import Blueprint.Proofs.Disk.Lookup
import Blueprint.Text.EditDistance

/-!
# Edit distance

`EditsIn n` relates byte lists that `n` edits turn into each other, and `distance` is the recursive
edit distance, which is the least such number. The rows of the computation hold the distances of a
prefix of the first list to every prefix of the second, so the distance of two texts is the least
number of edits between their bytes, and it is a metric.
-/

namespace Blueprint.Text

/-! ### Edits -/

/-- One byte is inserted, deleted or replaced. -/
inductive Edit : List UInt8 → List UInt8 → Prop
  | insert (before after : List UInt8) (x : UInt8) : Edit (before ++ after) (before ++ x :: after)
  | delete (before after : List UInt8) (x : UInt8) : Edit (before ++ x :: after) (before ++ after)
  | replace (before after : List UInt8) (x y : UInt8) :
    Edit (before ++ x :: after) (before ++ y :: after)

/-- So many edits, one after the other. -/
inductive EditsIn : Nat → List UInt8 → List UInt8 → Prop
  | none (xs : List UInt8) : EditsIn 0 xs xs
  | step {n : Nat} {xs ys zs : List UInt8} (first : Edit xs ys) (rest : EditsIn n ys zs) :
    EditsIn (n + 1) xs zs

variable {m n : Nat} {xs ys zs : List UInt8}

namespace Edit

theorem symm (h : Edit xs ys) : Edit ys xs := by
  cases h with
  | insert before after x => exact .delete before after x
  | delete before after x => exact .insert before after x
  | replace before after x y => exact .replace before after y x

theorem cons (h : Edit xs ys) (z : UInt8) : Edit (z :: xs) (z :: ys) := by
  cases h with
  | insert before after x => exact .insert (z :: before) after x
  | delete before after x => exact .delete (z :: before) after x
  | replace before after x y => exact .replace (z :: before) after x y

theorem reverse (h : Edit xs ys) : Edit xs.reverse ys.reverse := by
  cases h <;> simp only [List.reverse_append, List.reverse_cons, List.append_assoc,
    List.singleton_append]
  case insert before after x => exact .insert after.reverse before.reverse x
  case delete before after x => exact .delete after.reverse before.reverse x
  case replace before after x y => exact .replace after.reverse before.reverse x y

end Edit

namespace EditsIn

theorem trans (h : EditsIn m xs ys) (h' : EditsIn n ys zs) : EditsIn (m + n) xs zs := by
  induction h with
  | none xs => rwa [Nat.zero_add]
  | step first _ ih =>
      rw [Nat.add_right_comm]
      exact .step first (ih h')

theorem single (h : Edit xs ys) : EditsIn 1 xs ys := .step h (.none ys)

theorem symm (h : EditsIn n xs ys) : EditsIn n ys xs := by
  induction h with
  | none xs => exact .none xs
  | step first _ ih => exact ih.trans (.single first.symm)

theorem cons (h : EditsIn n xs ys) (z : UInt8) : EditsIn n (z :: xs) (z :: ys) := by
  induction h with
  | none xs => exact .none (z :: xs)
  | step first _ ih => exact .step (first.cons z) ih

theorem reverse (h : EditsIn n xs ys) : EditsIn n xs.reverse ys.reverse := by
  induction h with
  | none xs => exact .none xs.reverse
  | step first _ ih => exact .step first.reverse ih

theorem eq_of_zero (h : EditsIn 0 xs ys) : xs = ys := by
  cases h
  rfl

theorem of_nil (ys : List UInt8) : EditsIn ys.length [] ys := by
  induction ys with
  | nil => exact .none []
  | cons y ys ih => exact ih.trans (.single (.insert [] ys y))

end EditsIn

/-! ### The recursive distance -/

/-- The recursive edit distance. -/
def distance : List UInt8 → List UInt8 → Nat
  | [], ys => ys.length
  | x :: xs, [] => (x :: xs).length
  | x :: xs, y :: ys =>
    min (min (distance xs (y :: ys) + 1) (distance (x :: xs) ys + 1))
      (distance xs ys + if x = y then 0 else 1)
termination_by xs ys => xs.length + ys.length

@[simp] theorem distance_nil_left (ys : List UInt8) : distance [] ys = ys.length := by
  rw [distance]

@[simp] theorem distance_nil_right (xs : List UInt8) : distance xs [] = xs.length := by
  cases xs <;> rw [distance]

theorem distance_cons (x y : UInt8) (xs ys : List UInt8) : distance (x :: xs) (y :: ys) =
    min (min (distance xs (y :: ys) + 1) (distance (x :: xs) ys + 1))
      (distance xs ys + if x = y then 0 else 1) := by
  rw [distance]

/-- The distance is attained. -/
theorem editsIn_distance (xs ys : List UInt8) : EditsIn (distance xs ys) xs ys := by
  fun_induction distance xs ys with
  | case1 ys => exact .of_nil ys
  | case2 x xs => exact (EditsIn.of_nil (x :: xs)).symm
  | case3 x xs y ys delete insert replace =>
      -- Each of the three ways to begin has a sequence of edits, and the least one is taken.
      have hdelete := EditsIn.step (.delete [] xs x) delete
      have hinsert := insert.trans (.single (.insert [] ys y))
      have hreplace : EditsIn (distance xs ys + if x = y then 0 else 1) (x :: xs) (y :: ys) := by
        split_ifs with h
        · exact h ▸ replace.cons x
        · exact (replace.cons x).trans (.single (.replace [] ys x y))
      rcases min_choice (min (distance xs (y :: ys) + 1) (distance (x :: xs) ys + 1))
        (distance xs ys + if x = y then 0 else 1) with h | h
      · rw [h]
        rcases min_choice (distance xs (y :: ys) + 1) (distance (x :: xs) ys + 1) with h | h
        · rwa [h]
        · rwa [h]
      · rwa [h]

theorem distance_cons_right_le (y : UInt8) (xs ys : List UInt8) :
    distance xs (y :: ys) ≤ distance xs ys + 1 := by
  cases xs with
  | nil => simp
  | cons x xs =>
      rw [distance_cons]
      omega

theorem distance_cons_left_le (x : UInt8) (xs ys : List UInt8) :
    distance (x :: xs) ys ≤ distance xs ys + 1 := by
  cases ys with
  | nil => simp
  | cons y ys =>
      rw [distance_cons]
      omega

theorem distance_le_cons_left (x : UInt8) (xs ys : List UInt8) :
    distance xs ys ≤ distance (x :: xs) ys + 1 := by
  induction ys with
  | nil =>
      simp only [distance_nil_right, List.length_cons]
      omega
  | cons y ys ih =>
      have hright := distance_cons_right_le y xs ys
      rw [distance_cons]
      omega

theorem distance_le_replace (x x' : UInt8) (xs ys : List UInt8) :
    distance (x :: xs) ys ≤ distance (x' :: xs) ys + 1 := by
  induction ys with
  | nil => simp
  | cons y ys ih =>
      rw [distance_cons, distance_cons]
      split_ifs <;> omega

/-- What changes distances by one at most does so behind a common beginning. -/
theorem distance_append_le (h : ∀ zs, distance xs zs ≤ distance ys zs + 1)
    (before zs : List UInt8) : distance (before ++ xs) zs ≤ distance (before ++ ys) zs + 1 := by
  induction before generalizing zs with
  | nil => exact h zs
  | cons b before ih =>
      rw [List.cons_append, List.cons_append]
      -- The recursion shortens either list, so the other one is taken apart in turn.
      induction zs with
      | nil =>
          have hnil := ih []
          simp only [distance_nil_right, List.length_cons] at hnil ⊢
          omega
      | cons z zs ih' =>
          have hdelete := ih (z :: zs)
          have hreplace := ih zs
          rw [distance_cons, distance_cons]
          omega

theorem Edit.distance_le (h : Edit xs ys) (zs : List UInt8) :
    distance xs zs ≤ distance ys zs + 1 := by
  cases h with
  | insert before after x => exact distance_append_le (distance_le_cons_left x after) before zs
  | delete before after x => exact distance_append_le (distance_cons_left_le x after) before zs
  | replace before after x y =>
      exact distance_append_le (distance_le_replace x y after) before zs

theorem distance_self (xs : List UInt8) : distance xs xs = 0 := by
  induction xs with
  | nil => simp
  | cons x xs ih => rw [distance_cons, ih, if_pos rfl, Nat.min_zero]

theorem EditsIn.distance_le (h : EditsIn n xs ys) : distance xs ys ≤ n := by
  induction h with
  | none xs => exact (distance_self xs).le
  | step first _ ih => exact (first.distance_le _).trans (Nat.add_le_add_right ih 1)

/-- The recursive distance is the least number of edits. -/
theorem distance_isLeast (xs ys : List UInt8) :
    IsLeast {n | EditsIn n xs ys} (distance xs ys) :=
  ⟨editsIn_distance xs ys, fun _ h => EditsIn.distance_le h⟩

theorem distance_comm (xs ys : List UInt8) : distance xs ys = distance ys xs :=
  Nat.le_antisymm (editsIn_distance ys xs).symm.distance_le
    (editsIn_distance xs ys).symm.distance_le

theorem distance_eq_zero_iff : distance xs ys = 0 ↔ xs = ys := by
  constructor
  · intro h
    exact (h ▸ editsIn_distance xs ys).eq_of_zero
  · rintro rfl
    exact distance_self xs

theorem distance_triangle (xs ys zs : List UInt8) :
    distance xs zs ≤ distance xs ys + distance ys zs :=
  ((editsIn_distance xs ys).trans (editsIn_distance ys zs)).distance_le

theorem distance_reverse_le (xs ys : List UInt8) :
    distance xs.reverse ys.reverse ≤ distance xs ys :=
  (editsIn_distance xs ys).reverse.distance_le

theorem distance_reverse (xs ys : List UInt8) :
    distance xs.reverse ys.reverse = distance xs ys := by
  refine (distance_reverse_le xs ys).antisymm ?_
  simpa only [List.reverse_reverse] using distance_reverse_le xs.reverse ys.reverse

/-- The recursion from the end, as the rows go. -/
theorem distance_concat (x y : UInt8) (xs ys : List UInt8) :
    distance (xs ++ [x]) (ys ++ [y]) =
      min (min (distance xs (ys ++ [y]) + 1) (distance (xs ++ [x]) ys + 1))
        (distance xs ys + if x = y then 0 else 1) := by
  have hrec := distance_cons x y xs.reverse ys.reverse
  simp only [← List.reverse_concat', distance_reverse] at hrec
  exact hrec

/-! ### Rows -/

/-- The distances of a list to all that begins with `done` and goes on into the rest. -/
def distancesFrom (xs : List UInt8) (done : List UInt8) : List UInt8 → List Nat
  | [] => []
  | y :: rest => distance xs (done ++ [y]) :: distancesFrom xs (done ++ [y]) rest

/-- The distances of a list to every prefix of another. -/
def row (xs ys : List UInt8) : List Nat := distance xs [] :: distancesFrom xs [] ys

theorem distancesFrom_nil (done rest : List UInt8) :
    distancesFrom [] done rest = List.range' (done.length + 1) rest.length := by
  induction rest generalizing done with
  | nil => rfl
  | cons y rest ih => simp [distancesFrom, ih, List.range'_succ]

theorem row_nil (ys : List UInt8) : row [] ys = List.range (ys.length + 1) := by
  rw [row, distancesFrom_nil, distance_nil_left, List.range_eq_range', List.range'_succ]
  rfl

theorem length_distancesFrom (xs done rest : List UInt8) :
    (distancesFrom xs done rest).length = rest.length := by
  induction rest generalizing done with
  | nil => rfl
  | cons y rest ih => rw [distancesFrom, List.length_cons, ih, List.length_cons]

theorem getElem?_distancesFrom (xs done rest : List UInt8) :
    (distance xs done :: distancesFrom xs done rest)[rest.length]? =
      some (distance xs (done ++ rest)) := by
  induction rest generalizing done with
  | nil => simp
  | cons y rest ih =>
      rw [distancesFrom, List.length_cons, List.getElem?_cons_succ, ih, List.append_assoc,
        List.singleton_append]

/-- Whatever stood in a row before, the distances of the longer list are written over it. -/
theorem writeFrom_eq (x : UInt8) (xs done rest : List UInt8) {old : List Nat}
    (h : old.length = rest.length) :
    writeFrom x rest (distancesFrom xs done rest) (distance xs done) (distance (xs ++ [x]) done)
      old = distancesFrom (xs ++ [x]) done rest := by
  induction rest generalizing done old with
  | nil =>
      obtain rfl := List.length_eq_zero_iff.mp h
      rfl
  | cons y rest ih =>
      obtain ⟨o, old, rfl⟩ := List.exists_cons_of_length_eq_add_one h
      rw [distancesFrom, distancesFrom, writeFrom, ← distance_concat,
        ih (done ++ [y]) (Nat.succ.inj h)]

/-- After a prefix of the first list, the finished row belongs to it and the other is as long. -/
structure Rows.Follows (ys xs : List UInt8) (r : Rows) : Prop where
  above : r.above = row xs ys
  length_spare : r.spare.length = ys.length + 1

namespace Rows.Follows

variable {r : Rows}

theorem start (ys : List UInt8) : (Rows.start ys.length).Follows ys [] where
  above := (row_nil ys).symm
  length_spare := List.length_replicate

theorem next (h : r.Follows ys xs) (x : UInt8) :
    (r.next ys (x, xs.length)).Follows ys (xs ++ [x]) := by
  obtain ⟨above, spare⟩ := r
  obtain ⟨rfl, hspare⟩ := h
  obtain ⟨o, old, rfl⟩ := List.exists_cons_of_length_eq_add_one hspare
  have hfirst : distance (xs ++ [x]) [] = xs.length + 1 := by simp
  have hwrite := writeFrom_eq x xs [] ys (Nat.succ.inj hspare)
  rw [hfirst] at hwrite
  constructor
  · simp only [Rows.next, row, hwrite, hfirst]
  · simp [Rows.next, row, length_distancesFrom]

theorem foldl (ys xs : List UInt8) :
    (xs.zipIdx.foldl (Rows.next ys) (Rows.start ys.length)).Follows ys xs := by
  induction xs using List.reverseRecOn with
  | nil => exact start ys
  | append_singleton xs x ih =>
      rw [List.zipIdx_append, List.foldl_append, Nat.zero_add]
      exact ih.next x

end Rows.Follows

theorem bytesDistance_eq (xs ys : List UInt8) : bytesDistance xs ys = distance xs ys := by
  rw [bytesDistance, (Rows.Follows.foldl ys xs).above, row, getElem?_distancesFrom]
  rfl

/-! ### Texts -/

theorem toUTF8_toList_inj {a b : String} : a.toUTF8.toList = b.toUTF8.toList ↔ a = b := by
  constructor
  · intro h
    have hdecode := congrArg decodeUtf8 h
    rw [decodeUtf8_toUTF8, decodeUtf8_toUTF8] at hdecode
    exact Option.some.inj hdecode
  · rintro rfl
    rfl

theorem editDistance_eq (a b : String) :
    editDistance a b = distance a.toUTF8.toList b.toUTF8.toList := by
  rw [editDistance]
  dsimp only
  split_ifs with heq ha hb
  · rw [heq, distance_self]
  · rw [List.isEmpty_iff.mp ha, distance_nil_left]
  · rw [List.isEmpty_iff.mp hb, distance_nil_right]
  · exact bytesDistance_eq _ _

/-- The distance of two texts is the least number of edits between their bytes, as the recursive
distance is, and it is a metric. -/
theorem editDistance_least_metric (a b c : String) :
    IsLeast {n | EditsIn n a.toUTF8.toList b.toUTF8.toList} (editDistance a b) ∧
    editDistance a b = distance a.toUTF8.toList b.toUTF8.toList ∧
    editDistance a b = editDistance b a ∧
    (editDistance a b = 0 ↔ a = b) ∧
    editDistance a c ≤ editDistance a b + editDistance b c := by
  rw [editDistance_eq a b, editDistance_eq b a, editDistance_eq a c, editDistance_eq b c]
  refine ⟨distance_isLeast _ _, rfl, distance_comm _ _, ?_, distance_triangle _ _ _⟩
  rw [distance_eq_zero_iff, toUTF8_toList_inj]

end Blueprint.Text
