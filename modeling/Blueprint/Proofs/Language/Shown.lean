import Blueprint.Language.CSharp
import Mathlib.Data.List.Basic

/-!
# What a source shows

A source is written from a block and from the names of the blocks that it refers to, never from
their identifiers or their other parts. `Shown` is what is left of a block once its references are
replaced by those names: blocks that show the same have the same source.
-/

namespace Blueprint

/-- The name of the first block of a kind with an identifier. -/
def Graph.nameIn? (g : Graph) (k : Kind) (id : NodeId) : Option String :=
  (g.find? k id).map k.nodeName

/-- The references that a source follows, with the kind of block that each one asks for. -/
def Kind.named : (k : Kind) → k.Node → List (Kind × NodeId)
  | .valueObject, _ => []
  | .entity, e => (Entity.targets e).map (Kind.valueObject, ·)
  | .aggregate, a => [(Kind.entity, Aggregate.root a)]
  | .repository, _ => []
  | .useCase, u => (UseCase.repositories u).map (Kind.repository, ·)

/-- A block as its source shows it. Fields of an entity come with the name of their type. -/
inductive Shown where
  | valueObject (name : String) (fields : List Field)
  | entity (name : String) (idType : Primitive) (fields : List (Option String × String))
  | aggregate (name : String) (invariants : List String) (root : Option String)
  | repository (name : String) (methods : List Method)
  | useCase (name : String) (input output : Shape) (repositories : List String)
  deriving DecidableEq

namespace CSharp

variable {g h : Graph}

def shownField (g : Graph) (f : EntityField) : Option String × String := (fieldType? g f, f.name)

def shown (g : Graph) : (k : Kind) → k.Node → Shown
  | .valueObject, v => .valueObject (ValueObject.name v) (ValueObject.fields v)
  | .entity, e => .entity (Entity.name e) (Entity.idType e) ((Entity.fields e).map (shownField g))
  | .aggregate, a => .aggregate (Aggregate.name a) (Aggregate.invariants a)
      (g.nameIn? .entity (Aggregate.root a))
  | .repository, r => .repository (Repository.name r) (Repository.methods r)
  | .useCase, u => .useCase (UseCase.name u) (UseCase.input u) (UseCase.output u)
      (dependencies g u)

/-! ### Sources from what they show -/

theorem map_propertyCode (fs : List EntityField) : fs.map (propertyCode g) =
    (fs.map (shownField g)).map fun (type?, name) =>
      match type? with
      | some type => .line (s!"public {type} {Text.pascal name} \x7b get; private set; \x7d")
      | none => .line s!"// Missing VO: {name}" := by
  rw [List.map_map]
  exact List.map_congr_left fun _ _ => rfl

/-- What is made of the typed fields depends on their types and names alone. -/
theorem map_typedFields {β : Type} (e : Entity) (write : String → String → β) :
    (typedFields g e).map (fun (type, f) => write type f.name) =
      (e.fields.map (shownField g)).filterMap fun (type?, name) => type?.map (write · name) := by
  rw [typedFields, List.map_filterMap, List.filterMap_map]
  refine List.filterMap_congr fun f _ => ?_
  rw [Option.map_map]
  rfl

section Entity

variable {e e' : Entity} (hfields : e.fields.map (shownField g) = e'.fields.map (shownField h))
include hfields

theorem map_typedFields_congr {β : Type} (write : String → String → β) :
    (typedFields g e).map (fun (type, f) => write type f.name) =
      (typedFields h e').map fun (type, f) => write type f.name := by
  rw [map_typedFields, map_typedFields, hfields]

theorem entityCode_congr (hname : e.name = e'.name) (hid : e.idType = e'.idType) :
    entityCode g e = entityCode h e' := by
  have hparams := map_typedFields_congr hfields fun type name => s!"{type} {Text.camel name}"
  have hbody := map_typedFields_congr hfields fun _ name =>
    Code.line s!"{Text.pascal name} = {Text.camel name};"
  simp only [entityCode, hparams, hbody, map_propertyCode, hname, hid, hfields]

end Entity

theorem aggregateCode_congr {a a' : Aggregate} {root root' : Entity} (hname : a.name = a'.name)
    (hinvariants : a.invariants = a'.invariants) (hroot : root.name = root'.name) :
    aggregateCode a root = aggregateCode a' root' := by
  rw [aggregateCode, aggregateCode, hname, hinvariants, hroot]

theorem useCaseCode_congr {u u' : UseCase} (hname : u.name = u'.name) (hinput : u.input = u'.input)
    (houtput : u.output = u'.output) (hdependencies : dependencies g u = dependencies h u') :
    useCaseCode g u = useCaseCode h u' := by
  rw [useCaseCode, useCaseCode, hname, hinput, houtput, hdependencies]

theorem emit_aggregate_congr {a a' : Aggregate} (hname : a.name = a'.name)
    (hinvariants : a.invariants = a'.invariants)
    (hroot : g.nameIn? .entity a.root = h.nameIn? .entity a'.root) :
    emit g .aggregate a = emit h .aggregate a' := by
  rw [Graph.nameIn?, Graph.nameIn?] at hroot
  rw [emit, emit]
  cases hg : g.find? .entity a.root with
  | none =>
      rw [hg, Option.map_none, eq_comm, Option.map_eq_none_iff] at hroot
      rw [hroot]
      exact congrArg (s!"// Missing root entity for aggregate {·}") hname
  | some root =>
      rw [hg, Option.map_some, eq_comm, Option.map_eq_some_iff] at hroot
      obtain ⟨root', hh, hnames⟩ := hroot
      rw [hh]
      exact congrArg Code.text (aggregateCode_congr hname hinvariants hnames.symm)

variable {k : Kind} {n m : k.Node}

theorem emit_congr (hshown : shown g k n = shown h k m) : emit g k n = emit h k m := by
  cases k with
  | valueObject =>
      obtain ⟨hname, hfields⟩ := Shown.valueObject.inj hshown
      rw [emit, emit, valueObjectCode, valueObjectCode, hname, hfields]
  | entity =>
      obtain ⟨hname, hid, hfields⟩ := Shown.entity.inj hshown
      exact congrArg Code.text (entityCode_congr hfields hname hid)
  | aggregate =>
      obtain ⟨hname, hinvariants, hroot⟩ := Shown.aggregate.inj hshown
      exact emit_aggregate_congr hname hinvariants hroot
  | repository =>
      obtain ⟨hname, hmethods⟩ := Shown.repository.inj hshown
      rw [emit, emit, repositoryCode, repositoryCode, hname, hmethods]
  | useCase =>
      obtain ⟨hname, hinput, houtput, hdependencies⟩ := Shown.useCase.inj hshown
      exact congrArg Code.text (useCaseCode_congr hname hinput houtput hdependencies)

theorem nodeName_congr (hshown : shown g k n = shown h k m) : k.nodeName n = k.nodeName m := by
  cases k with
  | valueObject => exact (Shown.valueObject.inj hshown).1
  | entity => exact (Shown.entity.inj hshown).1
  | aggregate => exact (Shown.aggregate.inj hshown).1
  | repository => exact (Shown.repository.inj hshown).1
  | useCase => exact (Shown.useCase.inj hshown).1

theorem file_congr (hshown : shown g k n = shown h k m) :
    Language.csharp.file g k n = Language.csharp.file h k m := by
  have hemit : Language.csharp.emit g k n = Language.csharp.emit h k m := emit_congr hshown
  rw [Language.file, Language.file, nodeName_congr hshown, hemit]

/-! ### What is shown of the blocks that are referred to -/

theorem fieldType?_congr {f : EntityField}
    (hnames : ∀ id ∈ f.target?, g.nameIn? .valueObject id = h.nameIn? .valueObject id) :
    fieldType? g f = fieldType? h f := by
  cases f with
  | primitive name type => rfl
  | valueObject name target => exact hnames target rfl

theorem dependencies_congr {u : UseCase}
    (hnames : ∀ id ∈ u.repositories, g.nameIn? .repository id = h.nameIn? .repository id) :
    dependencies g u = dependencies h u := List.filterMap_congr hnames

/-- Of the other blocks a source shows the names at the references that it follows. -/
theorem shown_congr (hnames : ∀ r ∈ k.named n, g.nameIn? r.1 r.2 = h.nameIn? r.1 r.2) :
    shown g k n = shown h k n := by
  cases k with
  | valueObject => rfl
  | repository => rfl
  | entity =>
      rw [shown, shown]
      congr 1
      refine List.map_congr_left fun f hf => ?_
      rw [shownField, shownField, fieldType?_congr]
      intro id hid
      exact hnames (.valueObject, id) (List.mem_map_of_mem (List.mem_filterMap.mpr ⟨f, hf, hid⟩))
  | aggregate =>
      rw [shown, shown, hnames (.entity, Aggregate.root n) (List.mem_singleton_self _)]
  | useCase =>
      rw [shown, shown, dependencies_congr]
      intro id hid
      exact hnames (.repository, id) (List.mem_map_of_mem hid)

end CSharp

end Blueprint
