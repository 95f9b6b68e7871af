import Blueprint.Proofs.Diff.Frontier

/-!
# Where the search for a middle ends

One search goes from the front and one from the back. As long as the two have not met, the
diagonals between them are inside the two stretches. So the place where they meet is inside as well,
and since the stretches have neither their first nor their last lines in common, it is neither end
of both.
-/

namespace Blueprint.Diff

variable {a b : Array String}

/-! ### Common lines -/

theorem commonFront_le (i j n : Nat) : commonFront a b i j n ≤ n := by
  induction n generalizing i j with
  | zero => exact Nat.le_refl 0
  | succ n ih =>
      rw [commonFront]
      split
      · exact Nat.succ_le_succ (ih (i + 1) (j + 1))
      · exact Nat.zero_le _

theorem getElem?_eq_of_lt_commonFront {i j n m : Nat} (h : m < commonFront a b i j n) :
    a[i + m]? = b[j + m]? := by
  induction n generalizing i j m with
  | zero => exact absurd h (Nat.not_lt_zero m)
  | succ n ih =>
      rw [commonFront] at h
      split at h
      next heq =>
        cases m with
        | zero => exact beq_iff_eq.mp heq
        | succ m =>
            have hm := ih (Nat.lt_of_succ_lt_succ h)
            rwa [Nat.add_right_comm, Nat.add_right_comm j] at hm
      next => exact absurd h (Nat.not_lt_zero m)

theorem getElem?_ne_of_commonFront_lt {i j n : Nat} (h : commonFront a b i j n < n) :
    a[i + commonFront a b i j n]? ≠ b[j + commonFront a b i j n]? := by
  induction n generalizing i j with
  | zero => exact absurd h (Nat.not_lt_zero _)
  | succ n ih =>
      rw [commonFront] at h ⊢
      split at h
      next heq =>
        have hne := ih (Nat.lt_of_succ_lt_succ h)
        rw [if_pos heq]
        rwa [Nat.add_right_comm, Nat.add_right_comm j] at hne
      next hne =>
        rw [if_neg hne]
        exact fun heq => hne (beq_iff_eq.mpr heq)

theorem commonBack_le (i j n : Nat) : commonBack a b i j n ≤ n := by
  induction n generalizing i j with
  | zero => exact Nat.le_refl 0
  | succ n ih =>
      rw [commonBack]
      split
      · exact Nat.succ_le_succ (ih (i - 1) (j - 1))
      · exact Nat.zero_le _

theorem getElem?_eq_of_lt_commonBack {i j n m : Nat} (h : m < commonBack a b i j n) :
    a[i - 1 - m]? = b[j - 1 - m]? := by
  induction n generalizing i j m with
  | zero => exact absurd h (Nat.not_lt_zero m)
  | succ n ih =>
      rw [commonBack] at h
      split at h
      next heq =>
        cases m with
        | zero => exact beq_iff_eq.mp heq
        | succ m =>
            have hm := ih (Nat.lt_of_succ_lt_succ h)
            rwa [Nat.sub_right_comm (i - 1), Nat.sub_right_comm (j - 1)] at hm
      next => exact absurd h (Nat.not_lt_zero m)

theorem getElem?_ne_of_commonBack_lt {i j n : Nat} (h : commonBack a b i j n < n) :
    a[i - 1 - commonBack a b i j n]? ≠ b[j - 1 - commonBack a b i j n]? := by
  induction n generalizing i j with
  | zero => exact absurd h (Nat.not_lt_zero _)
  | succ n ih =>
      rw [commonBack] at h ⊢
      split at h
      next heq =>
        have hne := ih (Nat.lt_of_succ_lt_succ h)
        rw [if_pos heq]
        rwa [Nat.sub_right_comm (i - 1), Nat.sub_right_comm (j - 1)] at hne
      next hne =>
        rw [if_neg hne]
        exact fun heq => hne (beq_iff_eq.mpr heq)

/-! ### The two searches -/

section Sides

variable (a b : Array String) (s t : Span)

def followFront (k : Int) (x : Nat) : Nat :=
  let y := ((x : Int) - k).toNat
  if x < s.len && 0 ≤ (x : Int) - k && y < t.len then
    commonFront a b (s.start + x) (t.start + y) (min (s.len - x) (t.len - y))
  else 0

def followBack (k : Int) (x : Nat) : Nat :=
  let y := ((x : Int) - k).toNat
  if x < s.len && 0 ≤ (x : Int) - k && y < t.len then
    commonBack a b (s.stop - x) (t.stop - y) (min (s.len - x) (t.len - y))
  else 0

/-- The search from the front stops where it began to follow a diagonal. -/
def meetFront (back : Frontier) (d : Nat) (k : Int) (x more : Nat) : Option (Nat × Nat) :=
  let y := ((x : Int) - k).toNat
  let across := k - delta s t
  if delta s t % 2 ≠ 0 && across.natAbs + 1 ≤ d && s.len ≤ x + more + back.get (-across) then
    some (s.start + x, t.start + y)
  else none

/-- The search from the back stops where it has followed a diagonal to. -/
def meetBack (front : Frontier) (d : Nat) (k : Int) (x more : Nat) : Option (Nat × Nat) :=
  let y := ((x : Int) - k).toNat
  let across := k - delta s t
  if delta s t % 2 = 0 && across.natAbs ≤ d && s.len ≤ x + more + front.get (-across) then
    some (s.stop - (x + more), t.stop - (y + more))
  else none

theorem goForward_eq_sweep (back : Frontier) (d : Nat) (ks : List Int) (f : Frontier) :
    goForward a b s t back d ks f =
      sweep (followFront a b s t) (meetFront s t back d) d ks f := by
  induction ks generalizing f with
  | nil => rfl
  | cons k ks ih =>
      rw [sweep]
      generalize hmore : followFront a b s t k (f.enter d k) = more
      simp only [followFront] at hmore
      simp only [goForward, hmore, ih, meetFront]
      split <;> rfl

theorem goBackward_eq_sweep (front : Frontier) (d : Nat) (ks : List Int) (f : Frontier) :
    goBackward a b s t front d ks f =
      sweep (followBack a b s t) (meetBack s t front d) d ks f := by
  induction ks generalizing f with
  | nil => rfl
  | cons k ks ih =>
      rw [sweep]
      generalize hmore : followBack a b s t k (f.enter d k) = more
      simp only [followBack] at hmore
      simp only [goBackward, hmore, ih, meetBack]
      split <;> rfl

end Sides

theorem stays_followFront (a b : Array String) (s t : Span) :
    Stays s.len t.len (followFront a b s t) := by
  intro k x
  rw [followFront]
  split
  next hif =>
    have hle := commonFront_le (a := a) (b := b) (s.start + x) (t.start + ((x : Int) - k).toNat)
      (min (s.len - x) (t.len - ((x : Int) - k).toNat))
    simp only [Bool.and_eq_true, decide_eq_true_eq] at hif
    exact .inr ⟨by omega, by omega⟩
  next => exact .inl rfl

theorem stays_followBack (a b : Array String) (s t : Span) :
    Stays s.len t.len (followBack a b s t) := by
  intro k x
  rw [followBack]
  split
  next hif =>
    have hle := commonBack_le (a := a) (b := b) (s.stop - x) (t.stop - ((x : Int) - k).toNat)
      (min (s.len - x) (t.len - ((x : Int) - k).toNat))
    simp only [Bool.and_eq_true, decide_eq_true_eq] at hif
    exact .inr ⟨by omega, by omega⟩
  next => exact .inl rfl

/-! ### Where the searches meet -/

/-- Two stretches that begin and end with different lines. -/
structure Apart (a b : Array String) (s t : Span) : Prop where
  old : s.start < s.stop
  new : t.start < t.stop
  first : a[s.start]? ≠ b[t.start]?
  last : a[s.stop - 1]? ≠ b[t.stop - 1]?

/-- A place on both sides that leaves less than the two stretches before it and behind it. -/
structure Splits (s t : Span) (p : Nat × Nat) : Prop where
  old : s.start ≤ p.1 ∧ p.1 ≤ s.stop
  new : t.start ≤ p.2 ∧ p.2 ≤ t.stop
  front : s.start < p.1 ∨ t.start < p.2
  back : p.1 < s.stop ∨ p.2 < t.stop

/-- What is known after `d` rounds in which the searches have not met. -/
structure Searched (s t : Span) (d : Nat) (front back : Frontier) : Prop where
  ahead : Reached s.len t.len d front
  behind : Reached s.len t.len d back
  frontInside : ∀ {k}, Ends d k →
    delta s t % 2 ≠ 0 ∧ (k - delta s t).natAbs < d ∨ d = 0 →
    front.get k < s.len ∧ front.get k < t.len + k
  backInside : ∀ {k}, Ends d k →
    delta s t % 2 = 0 ∧ (k - delta s t).natAbs ≤ d ∨ d = 0 →
    back.get k < s.len ∧ back.get k < t.len + k

section Search

variable {s t : Span} {d : Nat} {front back : Frontier} {k : Int} {p : Nat × Nat}

theorem Span.len_eq (s : Span) : s.len = s.stop - s.start := rfl

theorem delta_eq (s t : Span) : delta s t = (s.len : Int) - t.len := rfl

theorem Searched.splits_of_meetFront (h : Searched s t d front back) (hapart : Apart a b s t)
    (hk : Ends (d + 1) k) {more : Nat}
    (hmeet : meetFront s t back (d + 1) k (front.enter (d + 1 : Nat) k) more = some p) :
    Splits s t p := by
  obtain ⟨hold, hnew, -, -⟩ := hapart
  have hn := s.len_eq
  have hm := t.len_eq
  have hdelta := delta_eq s t
  rw [meetFront] at hmeet
  split at hmeet
  next hif =>
    simp only [Bool.and_eq_true, decide_eq_true_eq] at hif
    obtain ⟨⟨hodd, hnear⟩, -⟩ := hif
    obtain ⟨hlow, hhigh, hparity⟩ := hk
    have hinside := h.ahead.enter_inside ⟨hlow, hhigh, hparity⟩
      (fun hdiagonal hends => h.frontInside hends (by omega))
      (fun hdiagonal hends => h.frontInside hends (by omega))
    obtain rfl := Option.some.inj hmeet
    constructor <;> dsimp only <;> omega
  next => nomatch hmeet

/-- The search from the back does not come to the front of both stretches along a diagonal. -/
theorem Apart.followBack_lt (hapart : Apart a b s t) (k : Int) (x : Nat)
    (hpos : 0 < followBack a b s t k x) :
    x + followBack a b s t k x < s.len ∨ (x + followBack a b s t k x : Int) < t.len + k := by
  obtain ⟨hold, hnew, hfirst, -⟩ := hapart
  have hn := s.len_eq
  have hm := t.len_eq
  rw [followBack] at hpos ⊢
  split at hpos
  next hif =>
    rw [if_pos hif]
    simp only [Bool.and_eq_true, decide_eq_true_eq] at hif
    obtain ⟨⟨hx, hy⟩, hlt⟩ := hif
    generalize hyx : ((x : Int) - k).toNat = y at *
    have hle := commonBack_le (a := a) (b := b) (s.stop - x) (t.stop - y)
      (min (s.len - x) (t.len - y))
    have hsame := getElem?_eq_of_lt_commonBack (Nat.sub_one_lt_of_lt hpos)
    generalize commonBack a b (s.stop - x) (t.stop - y) (min (s.len - x) (t.len - y)) = more at *
    by_cases hcorner : x + more = s.len ∧ y + more = t.len
    · have hstart : s.stop - x - 1 - (more - 1) = s.start := by omega
      have hstart' : t.stop - y - 1 - (more - 1) = t.start := by omega
      rw [hstart, hstart'] at hsame
      exact absurd hsame hfirst
    · omega
  next => exact absurd hpos (Nat.lt_irrefl 0)

theorem Searched.splits_of_meetBack (h : Searched s t d front back) (hapart : Apart a b s t)
    (hk : Ends (d + 1) k) {front' : Frontier}
    (hmeet : meetBack s t front' (d + 1) k (back.enter (d + 1 : Nat) k)
      (followBack a b s t k (back.enter (d + 1 : Nat) k)) = some p) :
    Splits s t p := by
  have hstays := stays_followBack a b s t k (back.enter (d + 1 : Nat) k)
  have hfollow := hapart.followBack_lt k (back.enter (d + 1 : Nat) k)
  obtain ⟨hold, hnew, -, -⟩ := hapart
  have hn := s.len_eq
  have hm := t.len_eq
  have hdelta := delta_eq s t
  generalize followBack a b s t k (back.enter (d + 1 : Nat) k) = more at *
  rw [meetBack] at hmeet
  split at hmeet
  next hif =>
    simp only [Bool.and_eq_true, decide_eq_true_eq] at hif
    obtain ⟨⟨heven, hnear⟩, -⟩ := hif
    obtain ⟨hlow, hhigh, hparity⟩ := hk
    have hinside := h.behind.enter_inside ⟨hlow, hhigh, hparity⟩
      (fun hdiagonal hends => h.backInside hends (by omega))
      (fun hdiagonal hends => h.backInside hends (by omega))
    obtain rfl := Option.some.inj hmeet
    constructor <;> dsimp only <;> omega
  next => nomatch hmeet

/-! ### Rounds -/

variable {front' back' : Frontier} {size : Nat}

theorem goForward_eq_error (hf : front.Holds size) (hd : d < size)
    (h : goForward a b s t back d (diagonals d) front = .error p) :
    ∃ k, Ends d k ∧ meetFront s t back d k (front.enter d k)
      (followFront a b s t k (front.enter d k)) = some p := by
  rw [goForward_eq_sweep] at h
  obtain ⟨k, hk, hmeet⟩ := sweep_eq_error hf hd (fun k => mem_diagonals.mp) h
  exact ⟨k, mem_diagonals.mp hk, hmeet⟩

theorem goBackward_eq_error (hf : back.Holds size) (hd : d < size)
    (h : goBackward a b s t front d (diagonals d) back = .error p) :
    ∃ k, Ends d k ∧ meetBack s t front d k (back.enter d k)
      (followBack a b s t k (back.enter d k)) = some p := by
  rw [goBackward_eq_sweep] at h
  obtain ⟨k, hk, hmeet⟩ := sweep_eq_error hf hd (fun k => mem_diagonals.mp) h
  exact ⟨k, mem_diagonals.mp hk, hmeet⟩

/-- The two searches have not met on the diagonals that both have come to. -/
theorem goForward_eq_ok (hf : front.Holds size) (hd : d < size)
    (h : goForward a b s t back d (diagonals d) front = .ok front') :
    front'.Holds size ∧ Round d (followFront a b s t) front front' ∧
      ∀ k, Ends d k → delta s t % 2 ≠ 0 → (k - delta s t).natAbs + 1 ≤ d →
        front'.get k + back.get (-(k - delta s t)) < s.len := by
  rw [goForward_eq_sweep] at h
  obtain ⟨hholds, hround, -⟩ := sweep_eq_ok hf hd (fun k => mem_diagonals.mp) (nodup_diagonals d) h
  refine ⟨hholds, fun k hk => (hround k (mem_diagonals.mpr hk)).2, fun k hk hodd hnear => ?_⟩
  obtain ⟨hmeet, hget⟩ := hround k (mem_diagonals.mpr hk)
  rw [hget]
  simp only [meetFront] at hmeet
  split at hmeet
  next => nomatch hmeet
  next hif =>
    simp only [Bool.and_eq_true, decide_eq_true_eq] at hif
    omega

theorem goBackward_eq_ok (hf : back.Holds size) (hd : d < size)
    (h : goBackward a b s t front d (diagonals d) back = .ok back') :
    back'.Holds size ∧ Round d (followBack a b s t) back back' ∧
      ∀ k, Ends d k → delta s t % 2 = 0 → (k - delta s t).natAbs ≤ d →
        back'.get k + front.get (-(k - delta s t)) < s.len := by
  rw [goBackward_eq_sweep] at h
  obtain ⟨hholds, hround, -⟩ := sweep_eq_ok hf hd (fun k => mem_diagonals.mp) (nodup_diagonals d) h
  refine ⟨hholds, fun k hk => (hround k (mem_diagonals.mpr hk)).2, fun k hk heven hnear => ?_⟩
  obtain ⟨hmeet, hget⟩ := hround k (mem_diagonals.mpr hk)
  rw [hget]
  simp only [meetBack] at hmeet
  split at hmeet
  next => nomatch hmeet
  next hif =>
    simp only [Bool.and_eq_true, decide_eq_true_eq] at hif
    omega

theorem Searched.step (h : Searched s t d front back) (hfront : front.Holds size)
    (hback : back.Holds size) (hd : d + 1 < size)
    (hgo : goForward a b s t back (d + 1) (diagonals (d + 1)) front = .ok front')
    (hgo' : goBackward a b s t front' (d + 1) (diagonals (d + 1)) back = .ok back') :
    Searched s t (d + 1) front' back' := by
  obtain ⟨-, hround, hmeet⟩ := goForward_eq_ok hfront hd hgo
  obtain ⟨-, hround', hmeet'⟩ := goBackward_eq_ok hback hd hgo'
  have hahead := h.ahead.step (stays_followFront a b s t) hround
  have hdelta := delta_eq s t
  refine ⟨hahead, h.behind.step (stays_followBack a b s t) hround', ?_, ?_⟩
  · intro k hk hnear
    obtain ⟨hodd, hnear⟩ := hnear.resolve_right (Nat.succ_ne_zero d)
    have hlt := hmeet k hk hodd hnear
    obtain ⟨hlow, hhigh, hparity⟩ := hk
    have hacross := @h.behind.along (-(k - delta s t)) ⟨by omega, by omega, by omega⟩
    omega
  · intro k hk hnear
    obtain ⟨heven, hnear⟩ := hnear.resolve_right (Nat.succ_ne_zero d)
    have hlt := hmeet' k hk heven hnear
    obtain ⟨hlow, hhigh, hparity⟩ := hk
    have hacross := @hahead.along (-(k - delta s t)) ⟨by omega, by omega, by omega⟩
    omega

theorem ends_zero_iff : Ends 0 k ↔ k = 0 := by
  constructor
  · rintro ⟨hlow, hhigh, -⟩
    omega
  · rintro rfl
    exact ⟨by omega, by omega, by omega⟩

/-- Nothing can be followed before the first edit. -/
theorem Apart.followFront_zero (hapart : Apart a b s t) : followFront a b s t 0 0 = 0 := by
  rw [followFront]
  split
  next =>
    refine Nat.eq_zero_of_not_pos fun hpos => hapart.first ?_
    exact getElem?_eq_of_lt_commonFront hpos
  next => rfl

theorem Apart.followBack_zero (hapart : Apart a b s t) : followBack a b s t 0 0 = 0 := by
  rw [followBack]
  split
  next =>
    refine Nat.eq_zero_of_not_pos fun hpos => hapart.last ?_
    exact getElem?_eq_of_lt_commonBack hpos
  next => rfl

theorem enter_start (size : Nat) : (Frontier.start size).enter 0 0 = 0 := by
  simp [Frontier.enter, Frontier.get_start]

theorem Apart.get_front (hapart : Apart a b s t) (hsize : 0 < size)
    (hgo : goForward a b s t back 0 (diagonals 0) (.start size) = .ok front) :
    front.get 0 = 0 := by
  have hround := (goForward_eq_ok (Frontier.holds_start size) hsize hgo).2.1 0
    (ends_zero_iff.mpr rfl)
  rw [hround, Int.natCast_zero, enter_start, hapart.followFront_zero]

theorem Apart.get_back (hapart : Apart a b s t) (hsize : 0 < size)
    (hgo : goBackward a b s t front 0 (diagonals 0) (.start size) = .ok back) :
    back.get 0 = 0 := by
  have hround := (goBackward_eq_ok (Frontier.holds_start size) hsize hgo).2.1 0
    (ends_zero_iff.mpr rfl)
  rw [hround, Int.natCast_zero, enter_start, hapart.followBack_zero]

theorem Apart.searched_zero (hapart : Apart a b s t) (hfront : front.get 0 = 0)
    (hback : back.get 0 = 0) : Searched s t 0 front back := by
  obtain ⟨hold, hnew, -, -⟩ := hapart
  have hn := s.len_eq
  have hm := t.len_eq
  refine ⟨.start hfront, .start hback, ?_, ?_⟩
  · rintro k hk -
    obtain rfl := ends_zero_iff.mp hk
    omega
  · rintro k hk -
    obtain rfl := ends_zero_iff.mp hk
    omega

/-- The searches cannot meet before the first edit. -/
theorem meetFront_zero {x more : Nat} : meetFront s t back 0 k x more = none := by
  rw [meetFront]
  refine if_neg ?_
  simp

theorem Apart.meetBack_zero (hapart : Apart a b s t) (hfront : front.get 0 = 0) :
    meetBack s t front 0 0 0 0 = none := by
  obtain ⟨hold, -, -, -⟩ := hapart
  have hn := s.len_eq
  rw [meetBack]
  refine if_neg ?_
  simp only [Bool.and_eq_true, decide_eq_true_eq]
  rintro ⟨⟨-, hnear⟩, hmeet⟩
  have hacross : -(0 - delta s t) = 0 := by omega
  rw [hacross, hfront] at hmeet
  omega

theorem searchMiddle_splits {n : Nat} (hapart : Apart a b s t) (h : Searched s t d front back)
    (hfront : front.Holds size) (hback : back.Holds size) (hd : d + 1 + n ≤ size)
    (hsearch : searchMiddle a b s t n (d + 1) front back = some p) : Splits s t p := by
  induction n generalizing d front back with
  | zero => nomatch hsearch
  | succ n ih =>
      rw [searchMiddle] at hsearch
      split at hsearch
      next q hgo =>
        obtain rfl := Option.some.inj hsearch
        obtain ⟨k, hk, hmeet⟩ := goForward_eq_error hfront (by omega) hgo
        exact h.splits_of_meetFront hapart hk hmeet
      next front' hgo =>
        split at hsearch
        next q hgo' =>
          obtain rfl := Option.some.inj hsearch
          obtain ⟨k, hk, hmeet⟩ := goBackward_eq_error hback (by omega) hgo'
          exact h.splits_of_meetBack hapart hk hmeet
        next back' hgo' =>
          exact ih (h.step hfront hback (by omega) hgo hgo')
            (goForward_eq_ok hfront (by omega) hgo).1 (goBackward_eq_ok hback (by omega) hgo').1
            (by omega) hsearch

theorem Apart.middle_splits (hapart : Apart a b s t) (h : middle? a b s t = some p) :
    Splits s t p := by
  rw [middle?] at h
  generalize (s.len + t.len + 1) / 2 = n at h
  have hsize : 0 < n + 1 + 1 := Nat.succ_pos _
  have hholds := Frontier.holds_start (n + 1 + 1)
  rw [searchMiddle] at h
  split at h
  next q hgo =>
    obtain ⟨k, -, hmeet⟩ := goForward_eq_error hholds hsize hgo
    rw [meetFront_zero] at hmeet
    nomatch hmeet
  next front hgo =>
    have hfront := hapart.get_front hsize hgo
    split at h
    next q hgo' =>
      obtain ⟨k, hk, hmeet⟩ := goBackward_eq_error hholds hsize hgo'
      obtain rfl := ends_zero_iff.mp hk
      rw [Int.natCast_zero, enter_start, hapart.followBack_zero,
        hapart.meetBack_zero hfront] at hmeet
      nomatch hmeet
    next back hgo' =>
      exact searchMiddle_splits hapart (hapart.searched_zero hfront (hapart.get_back hsize hgo'))
        (goForward_eq_ok hholds hsize hgo).1 (goBackward_eq_ok hholds hsize hgo').1
        (by omega) h

end Search

end Blueprint.Diff
