import Blueprint.Proofs.Path
import Mathlib.Data.Prod.Lex
import Mathlib.Data.String.Basic

/-!
# The order of paths

Components are in a linear order: the root, the dot, the double dot, then the names by their texts.
Lists of components are ordered lexicographically, and a comparison of two paths tells this order.
-/

namespace Blueprint

namespace Component

/-- What a component is ordered by: its kind, then its name. -/
def key : Component → ℕ ×ₗ String
  | .root => toLex (0, "")
  | .current => toLex (1, "")
  | .parent => toLex (2, "")
  | .name s => toLex (3, s)

theorem key_injective : Function.Injective key := by
  intro a b h
  cases a <;> cases b <;> simp_all [key]

instance : LinearOrder Component := LinearOrder.lift' key key_injective

theorem compare_eq (a b : Component) : a.compare b = Ord.compare a b := by
  cases a <;> cases b <;> rfl

theorem compare_compares (a b : Component) : (a.compare b).Compares a b :=
  (compare_iff a b).mp (compare_eq a b).symm

end Component

namespace Path

theorem compares_cons_iff {o : Ordering} {a : Component} {as bs : List Component} :
    o.Compares (a :: as) (a :: bs) ↔ o.Compares as bs := by
  cases o <;> simp

theorem compareComponents_compares (as bs : List Component) :
    (compareComponents as bs).Compares as bs := by
  induction as generalizing bs with
  | nil =>
      cases bs with
      | nil => rfl
      | cons b bs => exact List.nil_lt_cons b bs
  | cons a as ih =>
      cases bs with
      | nil => exact List.nil_lt_cons a as
      | cons b bs =>
          have hab := Component.compare_compares a b
          rw [compareComponents]
          cases h : a.compare b with
          | lt =>
              rw [h] at hab
              exact List.cons_lt_cons_iff.mpr (.inl hab)
          | eq =>
              rw [h] at hab
              obtain rfl : a = b := hab
              exact compares_cons_iff.mpr (ih bs)
          | gt =>
              rw [h] at hab
              exact List.cons_lt_cons_iff.mpr (.inl hab)

theorem compare_compares (p q : Path) : (p.compare q).Compares p.components q.components :=
  compareComponents_compares _ _

end Path

end Blueprint
