import Blueprint.Graph.Starter
import Blueprint.Language.CSharp
import Blueprint.Proofs.Graph.Validation
import Blueprint.Proofs.Source.Layout
import Mathlib.Data.List.Infix

/-!
# Written sources resolve as validation does

Validation looks identifiers up among all those of a kind, the sources take the first block that
has one. Both agree on every reference, so a source shows exactly what validation reports.
-/

namespace Blueprint

namespace Issue

def isMissingValueObject : Issue → Bool
  | .missingValueObject _ _ => true
  | _ => false

def isMissingRepository : Issue → Bool
  | .missingRepository _ => true
  | _ => false

theorem severity_of_isMissingValueObject {i : Issue} (h : i.isMissingValueObject) :
    i.severity = .error := by
  cases i <;> first | rfl | contradiction

theorem severity_of_isMissingRepository {i : Issue} (h : i.isMissingRepository) :
    i.severity = .error := by
  cases i <;> first | rfl | contradiction

end Issue

namespace CSharp

/-- A line that stands in a class for a field without a type. -/
def isMissingField (line : String) : Bool := "  // Missing VO: ".toList.isPrefixOf line.toList

/-- A line that declares a repository in the class of a use case. -/
def isDependency (line : String) : Bool := "  private readonly ".toList.isPrefixOf line.toList

def constructorCode (name : String) (params body : List String) : Code :=
  .block s!"public {name}({commaList params})" (body.map .line)

/-- None of the lines that `p` looks for stands outside a class or belongs to a constructor. -/
structure Apart (p : String → Bool) : Prop where
  outer : ∀ line : String, line.toList.head? ≠ some ' ' → p line = false
  declaration : ∀ text, p (Layout.indented 1 ("public " ++ text)) = false
  opening : p (Layout.indented 1 "\x7b") = false
  statement : ∀ text, p (Layout.indented 2 text) = false
  closing : p (Layout.indented 1 "\x7d") = false

theorem not_isPrefixOf_of_head? {text line : String} (htext : text.toList.head? = some ' ')
    (hline : line.toList.head? ≠ some ' ') : text.toList.isPrefixOf line.toList = false := by
  cases ht : text.toList with
  | nil => simp [ht] at htext
  | cons c rest =>
      cases hl : line.toList with
      | nil => rfl
      | cons d rest' =>
          rw [ht, List.head?_cons, Option.some.injEq] at htext
          rw [hl, List.head?_cons, ne_eq, Option.some.injEq] at hline
          simp [List.isPrefixOf, htext, Ne.symm hline]

theorem apart_isMissingField : Apart isMissingField where
  outer line h := not_isPrefixOf_of_head? (by decide) h
  declaration text := by simp [isMissingField, Layout.indented, List.isPrefixOf]
  opening := by decide
  statement text := by
    by_cases h : text = "" <;> simp [isMissingField, Layout.indented, List.isPrefixOf, h]
  closing := by decide

theorem apart_isDependency : Apart isDependency where
  outer line h := not_isPrefixOf_of_head? (by decide) h
  declaration text := by simp [isDependency, Layout.indented, List.isPrefixOf]
  opening := by decide
  statement text := by
    by_cases h : text = "" <;> simp [isDependency, Layout.indented, List.isPrefixOf, h]
  closing := by decide

namespace Apart

variable {p : String → Bool} (hp : Apart p)
include hp

theorem countP_constructorCode (name : String) (params body : List String) :
    (Code.linesAt 1 (constructorCode name params body)).countP p = 0 := by
  have hheader : s!"public {name}({commaList params})" =
      "public " ++ (name ++ "(" ++ commaList params ++ ")") := by
    simp [toString, String.append_assoc]
  have hbody : (body.map (Layout.indented 2)).countP p = 0 := by
    rw [List.countP_map, List.countP_eq_zero]
    intro text _
    simp [hp.statement]
  rw [constructorCode, Code.linesAt, Code.allLinesAt_map_line, hheader]
  simp [hp.declaration, hp.opening, hp.closing, hbody]

/-- A class holds every line that is looked for in its source. -/
theorem countP_class (opening : List String) (name : String) (body : List Code)
    (hopening : ∀ line ∈ opening, line.toList.head? ≠ some ' ') :
    (Code.allLinesAt 0 (opening.map .line ++ [.block s!"public class {name}" body])).countP p =
      (Code.allLinesAt 1 body).countP p := by
  have hzero (line : String) : Layout.indented 0 line = line := by
    by_cases h : line = "" <;> simp [Layout.indented, h]
  have houter : (opening.map (Layout.indented 0)).countP p = 0 := by
    rw [List.countP_map, List.countP_eq_zero]
    intro line hline
    simp [hzero, hp.outer line (hopening line hline)]
  have hheader : p s!"public class {name}" = false := hp.outer _ (by simp [toString])
  have hopen : p "\x7b" = false := hp.outer _ (by decide)
  have hclose : p "\x7d" = false := hp.outer _ (by decide)
  rw [Code.allLinesAt_append, Code.allLinesAt_map_line, List.countP_append, houter, Nat.zero_add,
    Code.allLinesAt, Code.linesAt, hzero, hzero, hzero]
  simp [Code.allLinesAt, hheader, hopen, hclose]

end Apart

/-! ### Entities -/

section Entity

variable (g : Graph) (e : Entity)

theorem isNone_fieldIssue? (f : EntityField) :
    (g.fieldIssue? f).isNone = (fieldType? g f).isSome := by
  cases f with
  | primitive name type => rfl
  | valueObject name target =>
      rw [fieldType?, Option.isSome_map, ← Graph.has_eq_isSome_find?, Graph.fieldIssue?]
      cases g.has .valueObject target <;> rfl

theorem map_snd_typedFields :
    (typedFields g e).map Prod.snd = e.fields.filter fun f => (g.fieldIssue? f).isNone := by
  rw [typedFields, List.map_filterMap, ← List.filterMap_eq_filter]
  refine List.filterMap_congr fun f _ => ?_
  rw [Option.guard, isNone_fieldIssue?]
  cases fieldType? g f <;> rfl

theorem isMissingValueObject_of_fieldIssue? {f : EntityField} {i : Issue}
    (h : g.fieldIssue? f = some i) : i.isMissingValueObject := by
  cases f with
  | primitive name type => cases h
  | valueObject name target =>
      rw [Graph.fieldIssue?] at h
      split_ifs at h
      cases h
      rfl

theorem countP_isMissingValueObject :
    (g.entityIssues e).countP Issue.isMissingValueObject =
      e.fields.countP fun f => (g.fieldIssue? f).isSome := by
  rw [Graph.entityIssues, ← List.length_filterMap_eq_countP, List.countP_eq_length]
  intro i hi
  obtain ⟨f, _, hf⟩ := List.mem_filterMap.mp hi
  exact isMissingValueObject_of_fieldIssue? g hf

theorem length_typedFields_add : (typedFields g e).length +
    (g.entityIssues e).countP Issue.isMissingValueObject = e.fields.length := by
  rw [countP_isMissingValueObject, ← List.length_map Prod.snd, map_snd_typedFields,
    ← List.countP_eq_length_filter,
    List.length_eq_countP_add_countP fun f => (g.fieldIssue? f).isNone]
  congr 1
  refine List.countP_congr fun f _ => ?_
  cases g.fieldIssue? f <;> simp

theorem countP_propertyCode (f : EntityField) :
    (Code.linesAt 1 (propertyCode g f)).countP isMissingField =
      if (g.fieldIssue? f).isSome then 1 else 0 := by
  rw [← Option.not_isNone, isNone_fieldIssue?, propertyCode]
  cases fieldType? g f <;>
    simp [Code.linesAt, isMissingField, Layout.indented, List.isPrefixOf, toString]

theorem countP_properties (fs : List EntityField) :
    (Code.allLinesAt 1 (fs.map (propertyCode g))).countP isMissingField =
      fs.countP fun f => (g.fieldIssue? f).isSome := by
  induction fs with
  | nil => rfl
  | cons f fs ih =>
      rw [List.map_cons, Code.allLinesAt, List.countP_append, countP_propertyCode, ih,
        List.countP_cons, Nat.add_comm]

/-- The constructor of an entity takes and assigns its typed fields. -/
def entityConstructor : Code :=
  let fresh := if e.idType = .guid then "Guid.NewGuid()" else "default"
  constructorCode e.name ((typedFields g e).map fun (type, f) => s!"{type} {Text.camel f.name}")
    (s!"Id = {fresh};" ::
      (typedFields g e).map fun (_, f) => s!"{Text.pascal f.name} = {Text.camel f.name};")

def entityBody : List Code :=
  .line (s!"public {typeName e.idType} Id \x7b get; private set; \x7d") ::
    e.fields.map (propertyCode g) ++
    [.blank, entityConstructor g e, .blank, .line "// Domain methods",
      .line "// TODO: Add behavior methods that enforce business rules"]

theorem entityCode_eq : entityCode g e =
    ["namespace Domain.Entities;", "using Domain.ValueObjects;", ""].map .line ++
      [.block s!"public class {e.name}" (entityBody g e)] := by
  simp [entityCode, entityBody, entityConstructor, constructorCode, Code.blank, Function.comp_def]

theorem entityConstructor_isInfix :
    Code.linesAt 1 (entityConstructor g e) <:+: Code.allLinesAt 0 (entityCode g e) := by
  rw [entityCode_eq]
  exact Code.linesAt_isInfix_class (by simp [entityBody])

theorem countP_entityBody : (Code.allLinesAt 1 (entityBody g e)).countP isMissingField =
    (g.entityIssues e).countP Issue.isMissingValueObject := by
  have hconstructor : (Code.linesAt 1 (entityConstructor g e)).countP isMissingField = 0 :=
    apart_isMissingField.countP_constructorCode ..
  rw [entityBody, Code.allLinesAt_append, List.countP_append, Code.allLinesAt, List.countP_append,
    countP_properties, countP_isMissingValueObject]
  simp [Code.allLinesAt, List.countP_append, hconstructor]
  simp [Code.linesAt, Code.blank, isMissingField, Layout.indented, List.isPrefixOf, toString]

theorem countP_isMissingField_entityCode :
    (Code.allLinesAt 0 (entityCode g e)).countP isMissingField =
      (g.entityIssues e).countP Issue.isMissingValueObject := by
  rw [entityCode_eq, apart_isMissingField.countP_class _ _ _ (by decide), countP_entityBody]

end Entity

/-! ### Aggregates -/

section Aggregate

variable (g : Graph) (a : Aggregate)

theorem noRoot_mem_iff : .noRoot ∈ g.aggregateIssues a ↔ g.find? .entity a.root = none := by
  rw [← Option.isNone_iff_eq_none, ← Option.not_isSome, ← Graph.has_eq_isSome_find?]
  cases h : g.has .entity a.root <;> simp [Graph.aggregateIssues, h]

theorem text_ne_missingRootComment (root : Entity) :
    Code.text (aggregateCode a root) ≠ missingRootComment a := by
  have hcomment : missingRootComment a = "// Missing root entity for aggregate " ++ a.name := rfl
  have htext : ∃ rest, Code.text (aggregateCode a root) =
      Layout.indented 0 "namespace Domain.Aggregates;" ++ rest := Code.exists_text_cons _ _
  obtain ⟨rest, htext⟩ := htext
  intro h
  rw [htext, hcomment] at h
  have hhead := congrArg (fun s : String => s.toList.head?) h
  simp [Layout.indented] at hhead

theorem emit_eq_missingRootComment_iff :
    emit g .aggregate a = missingRootComment a ↔ .noRoot ∈ g.aggregateIssues a := by
  rw [noRoot_mem_iff, emit]
  cases g.find? .entity a.root with
  | none => simp
  | some root => simpa using text_ne_missingRootComment a root

end Aggregate

/-! ### Use cases -/

section UseCase

variable (g : Graph) (u : UseCase)

theorem countP_isMissingRepository :
    (g.useCaseIssues u).countP Issue.isMissingRepository =
      u.repositories.countP fun id => !g.has .repository id := by
  simp [Graph.useCaseIssues, Issue.isMissingRepository, Function.comp_def, List.countP_filter]

theorem length_dependencies_add : (dependencies g u).length +
    (g.useCaseIssues u).countP Issue.isMissingRepository = u.repositories.length := by
  rw [countP_isMissingRepository, dependencies, List.length_filterMap_eq_countP,
    List.length_eq_countP_add_countP fun id => g.has .repository id]
  simp only [Option.isSome_map, Graph.has_eq_isSome_find?, Bool.not_eq_true, Bool.decide_eq_false]

/-- The repositories that a use case gets, with the names of their parameters. -/
def parameters : List (String × String) := (dependencies g u).map fun r => (r, dependencyName r)

/-- The constructor of a use case takes and assigns its repositories. -/
def useCaseConstructor : Code :=
  constructorCode u.name ((parameters g u).map fun (r, d) => s!"{r} {d}")
    ((parameters g u).map fun (_, d) =>
      s!"_{d} = {d} ?? throw new ArgumentNullException(nameof({d}));")

def declarations : List String :=
  (parameters g u).map fun (r, d) => s!"private readonly {r} _{d};"

def recordLine (s : Shape) : String :=
  s!"public record {s.name}({commaList (s.fields.map recordMember)});"

theorem recordLine_eq (s : Shape) : recordLine s =
    s!"public record {s.name}({commaList (s.fields.map recordMember)});" := rfl

def executeCode : Code :=
  .block (s!"public async Task<{u.output.name}> ExecuteAsync({u.input.name} request, " ++
      "CancellationToken ct = default)")
    [.line "// TODO: Implement use case logic", .line "throw new NotImplementedException();"]

def useCaseBody : List Code :=
  (declarations g u).map .line ++ (if (dependencies g u).isEmpty then [] else [.blank]) ++
    [useCaseConstructor g u, .blank, executeCode u]

theorem useCaseCode_eq : useCaseCode g u =
    ["namespace Application.UseCases;", "using Application.Ports;", "using Domain.Entities;", "",
        recordLine u.input, recordLine u.output, ""].map .line ++
      [.block s!"public class {u.name}" (useCaseBody g u)] := by
  cases h : dependencies g u <;>
    simp [useCaseCode, h, useCaseBody, useCaseConstructor, constructorCode, recordLine_eq,
      declarations, parameters, executeCode, Code.blank, Function.comp_def]

theorem useCaseConstructor_isInfix :
    Code.linesAt 1 (useCaseConstructor g u) <:+: Code.allLinesAt 0 (useCaseCode g u) := by
  rw [useCaseCode_eq]
  exact Code.linesAt_isInfix_class (by simp [useCaseBody])

theorem countP_useCaseBody :
    (Code.allLinesAt 1 (useCaseBody g u)).countP isDependency = (dependencies g u).length := by
  have hconstructor : (Code.linesAt 1 (useCaseConstructor g u)).countP isDependency = 0 :=
    apart_isDependency.countP_constructorCode ..
  have hdeclarations : (Code.allLinesAt 1 ((declarations g u).map .line)).countP isDependency =
      (dependencies g u).length := by
    have hall : ∀ line ∈ (declarations g u).map (Layout.indented 1), isDependency line := by
      intro line hline
      obtain ⟨_, hdeclaration, rfl⟩ := List.mem_map.mp hline
      obtain ⟨_, _, rfl⟩ := List.mem_map.mp hdeclaration
      simp [isDependency, Layout.indented, toString]
    rw [Code.allLinesAt_map_line, List.countP_eq_length.mpr hall]
    simp [declarations, parameters]
  have hblank : (Code.allLinesAt 1
      (if (dependencies g u).isEmpty then [] else [.blank])).countP isDependency = 0 := by
    split_ifs <;> rfl
  have hrest : (Code.allLinesAt 1 [.blank, executeCode u]).countP isDependency = 0 := by
    simp [Code.allLinesAt, Code.linesAt, Code.blank, executeCode, isDependency, Layout.indented,
      List.isPrefixOf, toString]
  rw [useCaseBody, Code.allLinesAt_append, Code.allLinesAt_append, List.countP_append,
    List.countP_append, hdeclarations, hblank, Code.allLinesAt, List.countP_append, hconstructor,
    hrest]
  rfl

theorem countP_isDependency_useCaseCode :
    (Code.allLinesAt 0 (useCaseCode g u)).countP isDependency = (dependencies g u).length := by
  rw [useCaseCode_eq, apart_isDependency.countP_class, countP_useCaseBody]
  simp [recordLine_eq, toString]

end UseCase

theorem countP_nodeIssues_eq_zero {g : Graph} (h : g.report.errors = 0) {p : Issue → Bool}
    (hp : ∀ i, p i → i.severity = .error) {k : Kind} {n : k.Node} (hn : n ∈ g.nodes k) :
    (g.nodeIssues k n).countP p = 0 := by
  rw [List.countP_eq_zero]
  intro i hi hpi
  exact g.severity_ne_error_of_errors_eq_zero h hn hi (hp i hpi)

/-- Sources leave out what validation reports and nothing else. -/
theorem emit_resolves_as_validated (g : Graph) :
    (∀ e : Entity,
      emit g .entity e = Text.joinLines (Code.allLinesAt 0 (entityCode g e)) ∧
        (Code.allLinesAt 0 (entityCode g e)).countP isMissingField =
          (g.nodeIssues .entity e).countP Issue.isMissingValueObject ∧
        Code.linesAt 1 (entityConstructor g e) <:+: Code.allLinesAt 0 (entityCode g e) ∧
        (typedFields g e).map Prod.snd = e.fields.filter (fun f => (g.fieldIssue? f).isNone) ∧
        (typedFields g e).length + (g.nodeIssues .entity e).countP Issue.isMissingValueObject =
          e.fields.length) ∧
      (∀ a : Aggregate,
        emit g .aggregate a = missingRootComment a ↔ .noRoot ∈ g.nodeIssues .aggregate a) ∧
      (∀ u : UseCase,
        emit g .useCase u = Text.joinLines (Code.allLinesAt 0 (useCaseCode g u)) ∧
          (Code.allLinesAt 0 (useCaseCode g u)).countP isDependency = (dependencies g u).length ∧
          Code.linesAt 1 (useCaseConstructor g u) <:+: Code.allLinesAt 0 (useCaseCode g u) ∧
          (dependencies g u).length +
            (g.nodeIssues .useCase u).countP Issue.isMissingRepository = u.repositories.length) ∧
      (g.report.errors = 0 →
        (∀ e ∈ g.entities, (typedFields g e).map Prod.snd = e.fields ∧
          ∀ line ∈ Code.allLinesAt 0 (entityCode g e), isMissingField line = false) ∧
        (∀ a ∈ g.aggregates, emit g .aggregate a ≠ missingRootComment a) ∧
        ∀ u ∈ g.useCases, (dependencies g u).length = u.repositories.length) := by
  refine ⟨fun e => ⟨Code.text_eq _, countP_isMissingField_entityCode g e,
      entityConstructor_isInfix g e, map_snd_typedFields g e, length_typedFields_add g e⟩,
    emit_eq_missingRootComment_iff g,
    fun u => ⟨Code.text_eq _, countP_isDependency_useCaseCode g u, useCaseConstructor_isInfix g u,
      length_dependencies_add g u⟩, ?_⟩
  intro h
  refine ⟨fun e he => ?_, fun a ha => ?_, fun u hu => ?_⟩
  · have hmissing : (g.entityIssues e).countP Issue.isMissingValueObject = 0 :=
      countP_nodeIssues_eq_zero h (fun _ => Issue.severity_of_isMissingValueObject)
        (k := .entity) he
    constructor
    · rw [countP_isMissingValueObject, List.countP_eq_zero] at hmissing
      rw [map_snd_typedFields, List.filter_eq_self]
      intro f hf
      simpa using hmissing f hf
    · rw [← countP_isMissingField_entityCode, List.countP_eq_zero] at hmissing
      simpa using hmissing
  · rw [ne_eq, emit_eq_missingRootComment_iff]
    intro hroot
    exact g.severity_ne_error_of_errors_eq_zero h (k := .aggregate) ha hroot rfl
  · have hmissing : (g.useCaseIssues u).countP Issue.isMissingRepository = 0 :=
      countP_nodeIssues_eq_zero h (fun _ => Issue.severity_of_isMissingRepository)
        (k := .useCase) hu
    have hlength := length_dependencies_add g u
    omega

/-- A ride with a fare, in the starter design. -/
def fareRide : Entity :=
  ⟨⟨"entity-1"⟩, "Ride", .guid, [.primitive "Pickup" .string, .valueObject "Fare" ⟨"vo-1"⟩]⟩

def fares (vs : List ValueObject) : Graph :=
  { Graph.starter with valueObjects := vs, entities := [fareRide] }

/-- With the value object of the fare nothing is left out, without it one field is. -/
theorem emit_resolves_as_validated_of_fare :
    let g := fares Graph.starter.valueObjects
    g.report.errors = 0 ∧
      (typedFields g fareRide).map Prod.snd = fareRide.fields ∧
      (∀ a ∈ g.aggregates, emit g .aggregate a ≠ missingRootComment a) ∧
      (∀ u ∈ g.useCases, (dependencies g u).length = u.repositories.length) ∧
      (Code.allLinesAt 0 (entityCode (fares []) fareRide)).countP isMissingField = 1 := by
  have herrors : (fares Graph.starter.valueObjects).report.errors = 0 := by decide
  have hmissing : ((fares []).nodeIssues .entity fareRide).countP
      Issue.isMissingValueObject = 1 := by decide
  obtain ⟨-, -, -, hclean⟩ := emit_resolves_as_validated (fares Graph.starter.valueObjects)
  obtain ⟨hfields, hroots, hdependencies⟩ := hclean herrors
  obtain ⟨hentities, -⟩ := emit_resolves_as_validated (fares [])
  exact ⟨herrors, (hfields fareRide (List.mem_singleton_self _)).1, hroots, hdependencies,
    (hentities fareRide).2.1.trans hmissing⟩

end CSharp

end Blueprint
