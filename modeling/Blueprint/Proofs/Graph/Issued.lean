import Blueprint.Graph.Edit
import Mathlib.Data.List.Nodup

/-!
# Issued identifiers

`issued n s` lists the first `n` identifiers that a source gives out, `spent n s` is the source
after them. A counter gives out different identifiers for as long as its numbers do not run over.
-/

namespace Blueprint

section Source

variable {σ : Type} [IdSource σ]

def issued : Nat → σ → List NodeId
  | 0, _ => []
  | n + 1, s => (IdSource.issue s).1 :: issued n (IdSource.issue s).2

def spent : Nat → σ → σ
  | 0, s => s
  | n + 1, s => spent n (IdSource.issue s).2

theorem issued_add (m n : Nat) (s : σ) : issued (m + n) s = issued m s ++ issued n (spent m s) := by
  induction m generalizing s with
  | zero => rw [Nat.zero_add, issued, spent, List.nil_append]
  | succ m ih => rw [Nat.succ_add, issued, ih, issued, spent, List.cons_append]

theorem spent_add (m n : Nat) (s : σ) : spent (m + n) s = spent n (spent m s) := by
  induction m generalizing s with
  | zero => rw [Nat.zero_add, spent]
  | succ m ih => rw [Nat.succ_add, spent, ih, spent]

end Source

namespace Counter

theorem idOf_injective {stem : String} {m n : UInt64} (h : idOf stem m = idOf stem n) :
    m = n := by
  have hrepr : (Nat.repr m.toNat).toList = (Nat.repr n.toNat).toList := by
    have htext := congrArg (fun id : NodeId => id.text.toList) h
    simpa [idOf] using htext
  rw [Nat.toList_repr, Nat.toList_repr] at hrepr
  have hdigits := congrArg (Nat.ofDigitChars 10 · 0) hrepr
  simp only [Nat.ofDigitChars_ten_toDigits] at hdigits
  exact UInt64.toNat_inj.mp hdigits

/-- The number after the present one, where another identifier is still to come. -/
theorem toNat_next {c : Counter} {n : Nat} (h : c.next.toNat + (n + 2) ≤ UInt64.size) :
    (c.next + 1).toNat = c.next.toNat + 1 := by
  have hlt : c.next.toNat + 1 < UInt64.size := by omega
  rw [UInt64.toNat_add]
  exact Nat.mod_eq_of_lt hlt

theorem exists_of_mem_issued {c : Counter} {n : Nat} (h : c.next.toNat + n ≤ UInt64.size)
    {id : NodeId} (hid : id ∈ issued n c) :
    ∃ m : UInt64, c.next.toNat ≤ m.toNat ∧ id = idOf c.stem m := by
  induction n generalizing c with
  | zero => cases hid
  | succ n ih =>
      rcases List.mem_cons.mp hid with rfl | hid
      · exact ⟨c.next, Nat.le_refl _, rfl⟩
      · cases n with
        | zero => cases hid
        | succ n =>
            have hnext := toNat_next h
            obtain ⟨m, hm, rfl⟩ := ih (c := ⟨c.stem, c.next + 1⟩) (by simp only; omega) hid
            exact ⟨m, by simp only at hm; omega, rfl⟩

/-- A counter does not repeat itself before its numbers run over. -/
theorem nodup_issued {c : Counter} {n : Nat} (h : c.next.toNat + n ≤ UInt64.size) :
    (issued n c).Nodup := by
  induction n generalizing c with
  | zero => exact List.nodup_nil
  | succ n ih =>
      cases n with
      | zero => exact List.nodup_singleton _
      | succ n =>
          have hnext := toNat_next h
          have hrest : (⟨c.stem, c.next + 1⟩ : Counter).next.toNat + (n + 1) ≤ UInt64.size := by
            simp only
            omega
          refine List.nodup_cons.mpr ⟨?_, ih hrest⟩
          intro hmem
          obtain ⟨m, hm, hid⟩ := exists_of_mem_issued hrest hmem
          obtain rfl := idOf_injective hid
          simp only at hm
          omega

end Counter

end Blueprint
