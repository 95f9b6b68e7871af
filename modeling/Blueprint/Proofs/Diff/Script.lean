import Blueprint.Proofs.Diff.Middle

/-!
# Valid scripts

A script leads from one place on both sides to another when its runs follow upon each other: a
deletion passes lines of the old side, an insertion lines of the new side, and what is kept passes
the same lines on both. Where a deletion stands on the new side, and an insertion on the old, does
not matter. The script that is found by splitting leads from the first lines to the last.
-/

namespace Blueprint.Diff

variable {a b : Array String}

/-- The `n` lines from line `i` of the old and from line `j` of the new side on are the same. -/
def Same (a b : Array String) (i j n : Nat) : Prop := ∀ m < n, a[i + m]? = b[j + m]?

namespace Same

variable {i j m n : Nat}

theorem append (h : Same a b i j m) (h' : Same a b (i + m) (j + m) n) :
    Same a b i j (m + n) := by
  intro x hx
  by_cases hlt : x < m
  · exact h x hlt
  · have hrest := h' (x - m) (by omega)
    have hplace : m + (x - m) = x := by omega
    rwa [Nat.add_assoc, Nat.add_assoc, hplace] at hrest

theorem take (h : Same a b i j n) (hm : m ≤ n) : Same a b i j m :=
  fun x hx => h x (Nat.lt_of_lt_of_le hx hm)

theorem drop (h : Same a b i j n) (m : Nat) : Same a b (i + m) (j + m) (n - m) := by
  intro x hx
  rw [Nat.add_assoc, Nat.add_assoc]
  exact h (m + x) (by omega)

end Same

/-- Runs that lead from line `i` of the old and line `j` of the new side to lines `k` and `l`. -/
inductive Leads (a b : Array String) : List Run → Nat → Nat → Nat → Nat → Prop where
  | done {i j : Nat} : Leads a b [] i j i j
  | keep {runs : List Run} {i j k l n : Nat} (hsame : Same a b i j n)
      (h : Leads a b runs (i + n) (j + n) k l) : Leads a b (⟨.keep, i, j, n⟩ :: runs) i j k l
  | delete {runs : List Run} {i j j' k l n : Nat} (h : Leads a b runs (i + n) j k l) :
      Leads a b (⟨.delete, i, j', n⟩ :: runs) i j k l
  | insert {runs : List Run} {i i' j k l n : Nat} (h : Leads a b runs i (j + n) k l) :
      Leads a b (⟨.insert, i', j, n⟩ :: runs) i j k l

namespace Leads

variable {runs rest : List Run} {i j k l p q : Nat}

theorem append (h : Leads a b runs i j k l) (h' : Leads a b rest k l p q) :
    Leads a b (runs ++ rest) i j p q := by
  induction h with
  | done => exact h'
  | keep hsame _ ih => exact .keep hsame (ih h')
  | delete _ ih => exact .delete (ih h')
  | insert _ ih => exact .insert (ih h')

theorem of_append (h : Leads a b (runs ++ rest) i j p q) :
    ∃ k l, Leads a b runs i j k l ∧ Leads a b rest k l p q := by
  induction runs generalizing i j with
  | nil => exact ⟨i, j, .done, h⟩
  | cons r runs ih =>
      cases h with
      | keep hsame h =>
          obtain ⟨k, l, hruns, hrest⟩ := ih h
          exact ⟨k, l, .keep hsame hruns, hrest⟩
      | delete h =>
          obtain ⟨k, l, hruns, hrest⟩ := ih h
          exact ⟨k, l, .delete hruns, hrest⟩
      | insert h =>
          obtain ⟨k, l, hruns, hrest⟩ := ih h
          exact ⟨k, l, .insert hruns, hrest⟩

theorem le (h : Leads a b runs i j k l) : i ≤ k ∧ j ≤ l := by
  induction h with
  | done => exact ⟨Nat.le_refl _, Nat.le_refl _⟩
  | keep _ _ ih => omega
  | delete _ ih => omega
  | insert _ ih => omega

/-- Lines that are kept need no run when there are none. -/
theorem kept {n : Nat} (hsame : Same a b i j n) :
    Leads a b (if 0 < n then [⟨.keep, i, j, n⟩] else []) i j (i + n) (j + n) := by
  split
  next => exact .keep hsame .done
  next hn =>
    obtain rfl := Nat.eq_zero_of_not_pos hn
    exact .done

end Leads

/-! ### Common lines of two stretches -/

variable {s t : Span}

theorem commonPrefix_le (a b : Array String) (s t : Span) :
    commonPrefix a b s t ≤ s.len ∧ commonPrefix a b s t ≤ t.len := by
  have hle := @commonFront_le a b s.start t.start (min s.len t.len)
  rw [commonPrefix]
  omega

theorem commonSuffix_le (a b : Array String) (s t : Span) :
    commonSuffix a b s t ≤ s.len ∧ commonSuffix a b s t ≤ t.len := by
  have hle := @commonBack_le a b s.stop t.stop (min s.len t.len)
  rw [commonSuffix]
  omega

theorem same_commonPrefix (a b : Array String) (s t : Span) :
    Same a b s.start t.start (commonPrefix a b s t) :=
  fun _ => getElem?_eq_of_lt_commonFront

theorem same_commonSuffix (hs : s.start ≤ s.stop) (ht : t.start ≤ t.stop) :
    Same a b (s.stop - commonSuffix a b s t) (t.stop - commonSuffix a b s t)
      (commonSuffix a b s t) := by
  intro m h
  have hle := commonSuffix_le a b s t
  have hn := s.len_eq
  have hm := t.len_eq
  have hlt : commonSuffix a b s t - 1 - m < commonSuffix a b s t := by omega
  have hsame := getElem?_eq_of_lt_commonBack hlt
  have hold : s.stop - 1 - (commonSuffix a b s t - 1 - m) = s.stop - commonSuffix a b s t + m := by
    omega
  have hnew : t.stop - 1 - (commonSuffix a b s t - 1 - m) = t.stop - commonSuffix a b s t + m := by
    omega
  rwa [hold, hnew] at hsame

/-- Behind the lines in common stand different ones. -/
theorem getElem?_ne_of_commonPrefix (hs : commonPrefix a b s t < s.len)
    (ht : commonPrefix a b s t < t.len) :
    a[s.start + commonPrefix a b s t]? ≠ b[t.start + commonPrefix a b s t]? :=
  getElem?_ne_of_commonFront_lt (Nat.lt_min.mpr ⟨hs, ht⟩)

theorem getElem?_ne_of_commonSuffix (hs : commonSuffix a b s t < s.len)
    (ht : commonSuffix a b s t < t.len) :
    a[s.stop - commonSuffix a b s t - 1]? ≠ b[t.stop - commonSuffix a b s t - 1]? := by
  rw [Nat.sub_right_comm, Nat.sub_right_comm t.stop]
  exact getElem?_ne_of_commonBack_lt (Nat.lt_min.mpr ⟨hs, ht⟩)

/-! ### Splitting -/

/-- The runs between two stretches that have no lines in common at their ends. -/
def runsApart (a b : Array String) (n : Nat) (s t : Span) : List Run :=
  if s.isEmpty && t.isEmpty then []
  else if t.isEmpty then [⟨.delete, s.start, t.start, s.len⟩]
  else if s.isEmpty then [⟨.insert, s.start, t.start, t.len⟩]
  else
    match middle? a b s t with
    | some (x, y) =>
      runsBetween a b n ⟨s.start, x⟩ ⟨t.start, y⟩ ++ runsBetween a b n ⟨x, s.stop⟩ ⟨y, t.stop⟩
    | none => [⟨.delete, s.start, t.start, s.len⟩, ⟨.insert, s.start, t.start, t.len⟩]

def Span.dropFront (s : Span) (n : Nat) : Span := ⟨s.start + n, s.stop⟩

def Span.dropBack (s : Span) (n : Nat) : Span := ⟨s.start, s.stop - n⟩

theorem runsBetween_eq (a b : Array String) (n : Nat) (s t : Span) :
    runsBetween a b (n + 1) s t =
      let front := commonPrefix a b s t
      let back := commonSuffix a b (s.dropFront front) (t.dropFront front)
      (if 0 < front then [⟨.keep, s.start, t.start, front⟩] else []) ++
        runsApart a b n ((s.dropFront front).dropBack back) ((t.dropFront front).dropBack back) ++
        if 0 < back then [⟨.keep, s.stop - back, t.stop - back, back⟩] else [] :=
  rfl

variable {n : Nat}

theorem leads_runsApart
    (hrec : ∀ {s t : Span}, s.start ≤ s.stop → t.start ≤ t.stop → s.len + t.len < n →
      Leads a b (runsBetween a b n s t) s.start t.start s.stop t.stop)
    (hs : s.start ≤ s.stop) (ht : t.start ≤ t.stop) (hn : s.len + t.len ≤ n)
    (hapart : s.start < s.stop → t.start < t.stop → Apart a b s t) :
    Leads a b (runsApart a b n s t) s.start t.start s.stop t.stop := by
  have hstop : s.start + s.len = s.stop := Nat.add_sub_cancel' hs
  have hstop' : t.start + t.len = t.stop := Nat.add_sub_cancel' ht
  have hdelete {runs : List Run} (h : Leads a b runs s.stop t.start s.stop t.stop) :
      Leads a b (⟨.delete, s.start, t.start, s.len⟩ :: runs) s.start t.start s.stop t.stop :=
    .delete (hstop.symm ▸ h)
  have hinsert {i i' : Nat} :
      Leads a b [⟨.insert, i', t.start, t.len⟩] i t.start i t.stop :=
    .insert (hstop'.symm ▸ .done)
  simp only [runsApart, Span.isEmpty, Bool.and_eq_true, decide_eq_true_eq]
  by_cases hempty : s.stop ≤ s.start
  · by_cases hempty' : t.stop ≤ t.start
    · rw [if_pos ⟨hempty, hempty'⟩, Nat.le_antisymm hs hempty, Nat.le_antisymm ht hempty']
      exact .done
    · rw [if_neg fun h => hempty' h.2, if_neg hempty', if_pos hempty, Nat.le_antisymm hs hempty]
      exact hinsert
  · rw [if_neg fun h => hempty h.1]
    by_cases hempty' : t.stop ≤ t.start
    · rw [if_pos hempty']
      refine hdelete ?_
      rw [Nat.le_antisymm ht hempty']
      exact .done
    · rw [if_neg hempty', if_neg hempty]
      have hsplit {p : Nat × Nat} := @Apart.middle_splits a b s t p (hapart (by omega) (by omega))
      have hlen := s.len_eq
      have hlen' := t.len_eq
      split
      next x y hmiddle =>
        obtain ⟨hold, hnew, hfront, hback⟩ := hsplit hmiddle
        dsimp only at hold hnew hfront hback
        have hbefore := @hrec ⟨s.start, x⟩ ⟨t.start, y⟩ hold.1 hnew.1
          (by simp only [Span.len]; omega)
        have hbehind := @hrec ⟨x, s.stop⟩ ⟨y, t.stop⟩ hold.2 hnew.2
          (by simp only [Span.len]; omega)
        exact hbefore.append hbehind
      next => exact hdelete hinsert

/-- The runs between two stretches lead from their first lines to behind their last. -/
theorem leads_runsBetween (hs : s.start ≤ s.stop) (ht : t.start ≤ t.stop)
    (hn : s.len + t.len < n) :
    Leads a b (runsBetween a b n s t) s.start t.start s.stop t.stop := by
  induction n generalizing s t with
  | zero => exact absurd hn (Nat.not_lt_zero _)
  | succ n ih =>
      have hfront := commonPrefix_le a b s t
      have hkept := Leads.kept (same_commonPrefix a b s t)
      have hfirst := @getElem?_ne_of_commonPrefix a b s t
      rw [runsBetween_eq]
      generalize commonPrefix a b s t = front at *
      have hlen := s.len_eq
      have hlen' := t.len_eq
      have hs' : (s.dropFront front).start ≤ (s.dropFront front).stop := by
        dsimp only [Span.dropFront]
        omega
      have ht' : (t.dropFront front).start ≤ (t.dropFront front).stop := by
        dsimp only [Span.dropFront]
        omega
      have hback := commonSuffix_le a b (s.dropFront front) (t.dropFront front)
      have hsame := @same_commonSuffix a b _ _ hs' ht'
      have hlast := @getElem?_ne_of_commonSuffix a b (s.dropFront front) (t.dropFront front)
      dsimp only
      generalize commonSuffix a b (s.dropFront front) (t.dropFront front) = back at *
      dsimp only [Span.dropFront, Span.dropBack, Span.len] at *
      have hbehind := Leads.kept hsame
      rw [Nat.sub_add_cancel (by omega), Nat.sub_add_cancel (by omega)] at hbehind
      refine (hkept.append ?_).append hbehind
      refine leads_runsApart ih (by dsimp only; omega) (by dsimp only; omega) ?_ ?_
      · dsimp only [Span.len]
        omega
      · intro hs'' ht''
        dsimp only at hs'' ht''
        exact ⟨hs'', ht'', hfirst (by omega) (by omega), hlast (by omega) (by omega)⟩

theorem leads_rawScript (a b : Array String) : Leads a b (rawScript a b) 0 0 a.size b.size :=
  leads_runsBetween (Nat.zero_le _) (Nat.zero_le _) (Nat.lt_succ_self _)

end Blueprint.Diff
