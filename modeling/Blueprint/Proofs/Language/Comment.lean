import Blueprint.Language.CSharp
import Blueprint.Proofs.Source.Layout

/-!
# Invariants in C# sources

The class of an aggregate lists its invariants as comments, each behind two slashes and otherwise as
it is written. Only the first row of an invariant has the slashes in front of it, so the invariants
stay comments exactly when every further row that one of them has is a comment by itself. This is so
whichever characters end a line, as long as the line feed does and none that the layout writes does.
-/

namespace Blueprint

open Text (rows)

namespace Text

/-- A character that ASCII can print. -/
def isAsciiPrintable (c : Char) : Bool := ' ' ≤ c && c ≤ '~'

/-- Characters that end a line, among them the line feed and none that can be printed. -/
structure EndsLines (ends : Char → Bool) : Prop where
  feed : ends '\n' = true
  printable : ∀ c, isAsciiPrintable c = true → ends c = false

theorem EndsLines.of_all {ends : Char → Bool} (hends : EndsLines ends) {s : String}
    (h : s.toList.all isAsciiPrintable = true) : ∀ c ∈ s.toList, ends c = false := fun c hc =>
  hends.printable c (List.all_eq_true.mp h c hc)

end Text

/-- A row that begins with two slashes behind its indentation. -/
def IsComment (row : List Char) : Prop :=
  "//".toList <+: row.dropWhile fun c => c = ' ' ∨ c = '\t'

instance (row : List Char) : Decidable (IsComment row) :=
  inferInstanceAs (Decidable ("//".toList <+: row.dropWhile fun c => c = ' ' ∨ c = '\t'))

namespace CSharp

/-- The lines of an aggregate's source down to the brace that opens `EnforceInvariants`. -/
def linesAbove (a : Aggregate) (root : Entity) : List String :=
  ["namespace Domain.Aggregates;", "using Domain.Entities;", "", s!"public class {a.name}", "\x7b",
    "  public " ++ root.name ++ " Root \x7b get; private set; \x7d", "",
    s!"  public {a.name}({root.name} root)", "  \x7b",
    "    Root = root ?? throw new ArgumentNullException(nameof(root));",
    "    EnforceInvariants();", "  \x7d", "", "  public void EnforceInvariants()", "  \x7b"]

/-- The lines of an aggregate's source from the brace that closes `EnforceInvariants`. -/
def linesBelow : List String :=
  ["  \x7d", "", "  // Aggregate operations",
    "  // TODO: Add methods that coordinate changes across the aggregate", "\x7d"]

/-- What stands in front of an invariant. -/
def invariantLead (i : Nat) : String := "    // Invariant " ++ ((i + 1).repr ++ ": ")

/-- The rows that an invariant takes up, and the one that calls for its check. -/
def invariantRows (ends : Char → Bool) (i : Nat) (invariant : String) : List (List Char) :=
  (rows ends invariant).modifyHead ((invariantLead i).toList ++ ·) ++
    ["    // TODO: Implement validation logic".toList]

/-- The rows between the braces of `EnforceInvariants`. -/
def enforcedRows (ends : Char → Bool) (invariants : List String) : List (List Char) :=
  (invariants.mapIdx (invariantRows ends)).flatten

theorem allLinesAt_aggregateCode (a : Aggregate) (root : Entity) :
    Code.allLinesAt 0 (aggregateCode a root) = linesAbove a root ++
      Code.allLinesAt 2 (a.invariants.mapIdx invariantCode).flatten ++ linesBelow := by
  rw [aggregateCode, linesAbove, linesBelow]
  simp [Code.allLinesAt, Code.linesAt, Code.blank, Layout.indented, toString,
    ← String.append_assoc]

theorem all_isAsciiPrintable_invariantLead (i : Nat) :
    (invariantLead i).toList.all Text.isAsciiPrintable = true := by
  have hnumber : (i + 1).repr.toList.all Text.isAsciiPrintable = true := by
    rw [Nat.repr, String.toList_ofList, List.all_eq_true]
    intro c hc
    have hdigit := Nat.isDigit_of_mem_toDigits (by decide) (by decide) hc
    have hbounds : '0' ≤ c ∧ c ≤ '9' := by simpa [Char.isDigit, Char.le_def] using hdigit
    have hlow := Char.le_trans (by decide : ' ' ≤ '0') hbounds.1
    have hhigh := Char.le_trans hbounds.2 (by decide : '9' ≤ '~')
    simp [Text.isAsciiPrintable, hlow, hhigh]
  unfold invariantLead
  rw [String.toList_append, String.toList_append, List.all_append, List.all_append, hnumber]
  decide

section Rows

variable {ends : Char → Bool} (hends : Text.EndsLines ends)
include hends

theorem rows_invariantCode (i : Nat) (invariant : String) :
    (Code.allLinesAt 2 (invariantCode i invariant)).flatMap (rows ends) =
      invariantRows ends i invariant := by
  have hlines : Code.allLinesAt 2 (invariantCode i invariant) =
      [invariantLead i ++ invariant, "    // TODO: Implement validation logic"] := by
    have hline : s!"// Invariant {i + 1}: {invariant}" =
        "// Invariant " ++ (i + 1).repr ++ ": " ++ invariant := rfl
    unfold invariantLead
    rw [invariantCode, hline]
    -- Kept from `simp`, which would compute digits of a number that is not known.
    generalize (i + 1).repr = number
    simp [Code.allLinesAt, Code.linesAt, Layout.indented, ← String.append_assoc]
  have hlead := hends.of_all (all_isAsciiPrintable_invariantLead i)
  have htodo := hends.of_all (s := "    // TODO: Implement validation logic") (by decide)
  rw [hlines, List.flatMap_cons, List.flatMap_singleton, Text.rows_append_of_forall hlead,
    Text.rows_of_forall htodo, invariantRows]

theorem rows_invariants (invariants : List String) :
    (Code.allLinesAt 2 (invariants.mapIdx invariantCode).flatten).flatMap (rows ends) =
      enforcedRows ends invariants := by
  rw [enforcedRows, List.mapIdx_eq_zipIdx_map, List.mapIdx_eq_zipIdx_map]
  induction invariants.zipIdx with
  | nil => rfl
  | cons numbered rest ih =>
      rw [List.map_cons, List.flatten_cons, Code.allLinesAt_append, List.flatMap_append, ih,
        rows_invariantCode hends, List.map_cons, List.flatten_cons]

theorem rows_emit_aggregate {g : Graph} {a : Aggregate} {root : Entity}
    (hroot : g.find? .entity a.root = some root) :
    rows ends (emit g .aggregate a) = (linesAbove a root).flatMap (rows ends) ++
      enforcedRows ends a.invariants ++ linesBelow.flatMap (rows ends) := by
  have hlines := allLinesAt_aggregateCode a root
  have hne : Code.allLinesAt 0 (aggregateCode a root) ≠ [] := by simp [hlines, linesAbove]
  have hemit : emit g .aggregate a = Code.text (aggregateCode a root) := by rw [emit, hroot]
  rw [hemit, Code.rows_text hends.feed hne, hlines, List.flatMap_append, List.flatMap_append,
    rows_invariants hends]

end Rows

theorem forall_isComment_invariantRows {ends : Char → Bool} {i : Nat} {invariant : String} :
    (∀ row ∈ invariantRows ends i invariant, IsComment row) ↔
      ∀ row ∈ (rows ends invariant).tail, IsComment row := by
  have htodo : IsComment "    // TODO: Implement validation logic".toList := by decide
  have hfirst : ∀ row, IsComment ((invariantLead i).toList ++ row) := by
    intro row
    unfold invariantLead
    rw [IsComment, String.toList_append, List.append_assoc]
    exact ⟨_, rfl⟩
  rw [invariantRows, List.forall_mem_append, List.forall_mem_singleton]
  cases hrows : rows ends invariant with
  | nil => exact absurd hrows (Text.rows_ne_nil ends invariant)
  | cons row rest =>
      rw [List.modifyHead_cons, List.forall_mem_cons, List.tail_cons]
      exact ⟨fun h => h.1.2, fun h => ⟨⟨hfirst row, h⟩, htodo⟩⟩

theorem forall_isComment_enforcedRows {ends : Char → Bool} {invariants : List String} :
    (∀ row ∈ enforcedRows ends invariants, IsComment row) ↔
      ∀ t ∈ invariants, ∀ row ∈ (rows ends t).tail, IsComment row := by
  calc
    _ ↔ ∀ numbered ∈ invariants.zipIdx, ∀ row ∈ (rows ends numbered.1).tail, IsComment row := by
      simp only [enforcedRows, List.forall_mem_flatten, List.mapIdx_eq_zipIdx_map,
        List.forall_mem_map, forall_isComment_invariantRows]
    _ ↔ ∀ t ∈ invariants.zipIdx.map Prod.fst, ∀ row ∈ (rows ends t).tail, IsComment row := by
      rw [List.forall_mem_map]
    _ ↔ _ := by rw [List.zipIdx_map_fst]

/-- What stands between the braces of `EnforceInvariants` are comments exactly when every row that
an invariant has after its first is one, and so in particular when no invariant breaks a line. -/
theorem invariants_commented_iff {ends : Char → Bool} (hends : Text.EndsLines ends) {g : Graph}
    {a : Aggregate} {root : Entity} (hroot : g.find? .entity a.root = some root) :
    rows ends (emit g .aggregate a) = (linesAbove a root).flatMap (rows ends) ++
        enforcedRows ends a.invariants ++ linesBelow.flatMap (rows ends) ∧
      ((∀ row ∈ enforcedRows ends a.invariants, IsComment row) ↔
        ∀ t ∈ a.invariants, ∀ row ∈ (rows ends t).tail, IsComment row) ∧
      ((∀ t ∈ a.invariants, ∀ c ∈ t.toList, ends c = false) →
        ∀ row ∈ enforcedRows ends a.invariants, IsComment row) := by
  refine ⟨rows_emit_aggregate hends hroot, forall_isComment_enforcedRows, fun hwhole => ?_⟩
  refine forall_isComment_enforcedRows.mpr fun t ht => ?_
  rw [Text.rows_of_forall (hwhole t ht)]
  exact List.forall_mem_nil _

/-- The characters that end a line of C#. -/
def endsLine (c : Char) : Bool := c ∈ ['\n', '\r', '\u0085', '\u2028', '\u2029']

theorem endsLines_endsLine : Text.EndsLines endsLine where
  feed := by decide
  printable c hprintable := by
    have hnone : ['\n', '\r', '\u0085', '\u2028', '\u2029'].any Text.isAsciiPrintable = false := by
      decide
    exact decide_eq_false fun hmem => List.any_eq_false.mp hnone c hmem hprintable

def ride : Entity := ⟨⟨"e-1"⟩, "Ride", .guid, []⟩

def rideAggregate (invariants : List String) : Aggregate :=
  ⟨⟨"a-1"⟩, "RideAggregate", ⟨"e-1"⟩, [], invariants⟩

/-- A design that has one entity, and an aggregate of it with these invariants. -/
def trips (invariants : List String) : Graph :=
  { Graph.empty "Trips" with entities := [ride], aggregates := [rideAggregate invariants] }

/-- Invariants of which one goes on in a second line, behind slashes of its own. -/
def slashed : List String := ["Driver is known", "Fare is positive\n\t// unless waived"]

theorem invariants_commented_of_slashes : Text.EndsLines endsLine ∧
    (trips slashed).find? .entity (rideAggregate slashed).root = some ride ∧
      (enforcedRows endsLine slashed).length = 5 ∧
        ∀ row ∈ enforcedRows endsLine slashed, IsComment row := by
  have hroot : (trips slashed).find? .entity (rideAggregate slashed).root = some ride := rfl
  have hiff := (invariants_commented_iff endsLines_endsLine hroot).2.1
  exact ⟨endsLines_endsLine, hroot, by decide, hiff.mpr (by decide)⟩

/-- An invariant that goes on in a second line without slashes. -/
def unslashed : List String := ["Fare is positive\nFare = 0;"]

/-- What follows a line feed in an invariant stands between the braces as a statement. -/
theorem not_isComment_invariant :
    (trips unslashed).find? .entity (rideAggregate unslashed).root = some ride ∧
      rows endsLine (emit (trips unslashed) .aggregate (rideAggregate unslashed)) =
        (linesAbove (rideAggregate unslashed) ride).flatMap (rows endsLine) ++
          ["    // Invariant 1: Fare is positive".toList, "Fare = 0;".toList,
            "    // TODO: Implement validation logic".toList] ++
          linesBelow.flatMap (rows endsLine) ∧
      ¬ IsComment "Fare = 0;".toList := by
  have hroot : (trips unslashed).find? .entity (rideAggregate unslashed).root = some ride := rfl
  have hrows : enforcedRows endsLine (rideAggregate unslashed).invariants =
      ["    // Invariant 1: Fare is positive".toList, "Fare = 0;".toList,
        "    // TODO: Implement validation logic".toList] := by decide
  exact ⟨hroot, hrows ▸ rows_emit_aggregate endsLines_endsLine hroot, by decide⟩

end CSharp

end Blueprint
