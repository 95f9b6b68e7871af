import Blueprint.Proofs.Language.Resolution

/-!
# Nesting of C# sources

Every line of a source begins with words of the language or ends with a semicolon, so no name,
signature or invariant can pass for a brace. As long as none of them breaks a line, every source
nests and is indented by its depth; only the comment that stands for an aggregate without its root
has no braces at all.
-/

namespace Blueprint

open Text (Unbroken)

/-- The names, signatures and invariants of a block, as far as sources show them. -/
def Kind.wording : (k : Kind) → k.Node → List String
  | .valueObject, v => ValueObject.name v :: (ValueObject.fields v).map Field.name
  | .entity, e => Entity.name e :: (Entity.fields e).map EntityField.name
  | .aggregate, a => Aggregate.name a :: Aggregate.invariants a
  | .repository, r => Repository.name r :: (Repository.methods r).map Method.signature
  | .useCase, u => UseCase.name u :: (UseCase.input u).name :: (UseCase.output u).name ::
      ((UseCase.input u).fields ++ (UseCase.output u).fields).map Field.name

/-- No name, signature or invariant of a graph breaks a line. -/
def Graph.Unbroken (g : Graph) : Prop :=
  ∀ k, ∀ n ∈ g.nodes k, ∀ t ∈ k.wording n, Text.Unbroken t

namespace CSharp

/-! ### Parts of lines -/

theorem unbroken_commaList {items : List String} (h : ∀ t ∈ items, Unbroken t) :
    Unbroken (commaList items) :=
  Text.unbroken_intercalate (by decide) h

theorem unbroken_typeName (type : Primitive) : Unbroken (typeName type) := by
  cases type <;> decide

theorem unbroken_recordMembers {fs : List Field} (h : ∀ f ∈ fs, Unbroken f.name) :
    Unbroken (commaList (fs.map recordMember)) := by
  refine unbroken_commaList (List.forall_mem_map.mpr fun f hf => ?_)
  simp +decide [recordMember, toString, unbroken_typeName, (h f hf).pascal]

theorem unbroken_dependencyName {r : String} (h : Unbroken r) : Unbroken (dependencyName r) := by
  rw [dependencyName]
  split
  next rest hr =>
    have hrest : Unbroken (String.ofList rest) := by
      rw [Unbroken, hr] at h
      simpa [Unbroken] using h
    exact hrest.camel
  next => exact h.camel

/-! ### Lines and blocks -/

theorem plainText_throwArgument {condition message : String} (hcondition : Unbroken condition)
    (hmessage : Unbroken message) : PlainText (throwArgument condition message) :=
  .of_head (by simp +decide [throwArgument, toString, hcondition, hmessage])
    (by simp [throwArgument, toString])

theorem plainText_guard {f : Field} {t : String} (hf : Unbroken f.name) (h : guard? f = some t) :
    PlainText t := by
  rw [guard?] at h
  split at h
  next =>
    obtain rfl := Option.some.inj h
    apply plainText_throwArgument <;> simp +decide [toString, hf.pascal, hf.camel]
  next =>
    obtain rfl := Option.some.inj h
    apply plainText_throwArgument <;> simp +decide [toString, hf.pascal, hf.camel]
  next => cases h

theorem plainText_recordLine {s : Shape} (hname : Unbroken s.name)
    (hfields : ∀ f ∈ s.fields, Unbroken f.name) : PlainText (recordLine s) := by
  have hmembers := unbroken_recordMembers hfields
  rw [recordLine_eq]
  exact .of_head (by simp +decide [toString, hname, hmembers]) (by simp [toString])

theorem plain_constructorCode {name : String} {params body : List String} (hname : Unbroken name)
    (hparams : ∀ p ∈ params, Unbroken p) (hbody : ∀ t ∈ body, PlainText t) :
    (constructorCode name params body).Plain := by
  have hlist := unbroken_commaList hparams
  refine .block (.of_head ?_ ?_) (List.forall_mem_map.mpr fun t ht => .line (hbody t ht))
  · simp +decide [toString, hname, hlist]
  · simp [toString]

theorem plain_class {opening : List String} {name : String} {body : List Code}
    (hopening : ∀ t ∈ opening, PlainText t) (hname : Unbroken name) (hbody : ∀ c ∈ body, c.Plain) :
    ∀ c ∈ opening.map Code.line ++ [Code.block s!"public class {name}" body], c.Plain := by
  rw [List.forall_mem_append, List.forall_mem_map, List.forall_mem_singleton]
  refine ⟨fun t ht => .line (hopening t ht), .block (.of_head ?_ ?_) hbody⟩
  · simp +decide [toString, hname]
  · simp [toString]

/-! ### Sources -/

theorem plain_valueObjectCode {v : ValueObject}
    (h : ∀ t ∈ Kind.wording .valueObject v, Unbroken t) : ∀ c ∈ valueObjectCode v, c.Plain := by
  simp only [Kind.wording, List.forall_mem_cons, List.forall_mem_map] at h
  obtain ⟨hname, hfields⟩ := h
  have hmembers := unbroken_recordMembers hfields
  have hparams : Unbroken (commaList (v.fields.map fun f =>
      s!"{typeName f.type} {Text.camel f.name}")) := by
    refine unbroken_commaList (List.forall_mem_map.mpr fun f hf => ?_)
    simp +decide [toString, unbroken_typeName, (hfields f hf).camel]
  have hargs : Unbroken (commaList (v.fields.map fun f => Text.camel f.name)) :=
    unbroken_commaList (List.forall_mem_map.mpr fun f hf => (hfields f hf).camel)
  simp only [valueObjectCode, List.forall_mem_cons, List.forall_mem_append, List.forall_mem_map,
    List.forall_mem_filterMap, Code.plain_line_iff, Code.plain_block_iff]
  refine ⟨by decide, Code.plain_blank,
    ⟨?_, ⟨?_, ?_, ?_, List.forall_mem_nil _⟩, List.forall_mem_nil _⟩, List.forall_mem_nil _⟩
  · exact .of_head (by simp +decide [toString, hname, hmembers]) (by simp [toString])
  · simp only [toString] at hparams
    exact .of_head (by simp +decide [toString, hname, hparams]) (by simp [toString])
  · exact fun f hf t ht => plainText_guard (hfields f hf) ht
  · exact .of_head (by simp +decide [toString, hname, hargs]) (by simp [toString])

theorem plain_repositoryCode {r : Repository}
    (h : ∀ t ∈ Kind.wording .repository r, Unbroken t) : ∀ c ∈ repositoryCode r, c.Plain := by
  simp only [Kind.wording, List.forall_mem_cons, List.forall_mem_map] at h
  obtain ⟨hname, hmethods⟩ := h
  simp only [repositoryCode, List.forall_mem_cons, List.forall_mem_map, Code.plain_line_iff,
    Code.plain_block_iff]
  refine ⟨by decide, by decide, Code.plain_blank,
    ⟨?_, fun m hm => .ended (hmethods m hm)⟩, List.forall_mem_nil _⟩
  exact .of_head (by simp +decide [toString, hname]) (by simp [toString])

theorem plain_invariantCode {i : Nat} {invariant : String} (h : Unbroken invariant) :
    ∀ c ∈ invariantCode i invariant, c.Plain := by
  have hnumber : Unbroken (i + 1).repr := by
    intro hfeed
    rw [Nat.repr, String.toList_ofList] at hfeed
    exact absurd (Nat.isDigit_of_mem_toDigits (by decide) (by decide) hfeed) (by decide)
  simp only [invariantCode, List.forall_mem_cons, Code.plain_line_iff]
  refine ⟨.of_head ?_ ?_, by decide, List.forall_mem_nil _⟩
  · simp +decide [toString, h, hnumber]
  · simp [toString]

theorem plain_aggregateCode {a : Aggregate} {root : Entity}
    (h : ∀ t ∈ Kind.wording .aggregate a, Unbroken t) (hroot : Unbroken root.name) :
    ∀ c ∈ aggregateCode a root, c.Plain := by
  simp only [Kind.wording, List.forall_mem_cons] at h
  obtain ⟨hname, hinvariants⟩ := h
  have hbody : ∀ c ∈ (a.invariants.mapIdx invariantCode).flatten, c.Plain := by
    intro c hc
    obtain ⟨cs, hcs, hc⟩ := List.mem_flatten.mp hc
    obtain ⟨i, hi, rfl⟩ := List.mem_mapIdx.mp hcs
    exact plain_invariantCode (hinvariants _ (List.getElem_mem hi)) c hc
  have hopening : ∀ t ∈ ["namespace Domain.Aggregates;", "using Domain.Entities;", ""],
      PlainText t := by decide
  refine plain_class hopening hname ?_
  simp only [List.forall_mem_cons, Code.plain_line_iff, Code.plain_block_iff]
  refine ⟨?_, Code.plain_blank, ⟨?_, by decide, by decide, List.forall_mem_nil _⟩,
    Code.plain_blank, ⟨by decide, hbody⟩, Code.plain_blank, by decide, by decide,
    List.forall_mem_nil _⟩
  · exact .of_head (by simp +decide [toString, hroot]) (by simp [toString])
  · exact .of_head (by simp +decide [toString, hname, hroot]) (by simp [toString])

section References

variable {g : Graph} (hg : g.Unbroken)
include hg

theorem unbroken_nodeName {k : Kind} {n : k.Node} (hn : n ∈ g.nodes k) :
    Unbroken (k.nodeName n) := by
  refine hg k n hn _ ?_
  cases k <;> exact List.mem_cons_self

theorem unbroken_find? {k : Kind} {id : NodeId} {n : k.Node} (h : g.find? k id = some n) :
    Unbroken (k.nodeName n) :=
  unbroken_nodeName hg (List.mem_of_find?_eq_some h)

theorem unbroken_fieldType? {f : EntityField} {type : String} (h : fieldType? g f = some type) :
    Unbroken type := by
  cases f with
  | primitive name type =>
      obtain rfl := Option.some.inj h
      exact unbroken_typeName type
  | valueObject name target =>
      obtain ⟨v, hv, rfl⟩ := Option.map_eq_some_iff.mp h
      exact unbroken_find? hg (k := .valueObject) hv

theorem unbroken_of_mem_dependencies {u : UseCase} {r : String} (h : r ∈ dependencies g u) :
    Unbroken r := by
  obtain ⟨id, -, hid⟩ := List.mem_filterMap.mp h
  obtain ⟨repository, hrepository, rfl⟩ := Option.map_eq_some_iff.mp hid
  exact unbroken_find? hg (k := .repository) hrepository

theorem plain_propertyCode {f : EntityField} (hf : Unbroken f.name) :
    (propertyCode g f).Plain := by
  rw [propertyCode]
  cases htype : fieldType? g f with
  | some type =>
      have htype' := unbroken_fieldType? hg htype
      exact .line (.of_head (by simp +decide [toString, htype', hf.pascal]) (by simp [toString]))
  | none => exact .line (.of_head (by simp +decide [toString, hf]) (by simp [toString]))

theorem plain_entityCode {e : Entity} (he : e ∈ g.entities) : ∀ c ∈ entityCode g e, c.Plain := by
  have hwording := hg .entity e he
  simp only [Kind.wording, List.forall_mem_cons, List.forall_mem_map] at hwording
  obtain ⟨hname, hfields⟩ := hwording
  have htyped : ∀ typed ∈ typedFields g e, Unbroken typed.1 ∧ Unbroken typed.2.name := by
    intro typed hmem
    obtain ⟨f, hf, hsome⟩ := List.mem_filterMap.mp hmem
    obtain ⟨type, htype, rfl⟩ := Option.map_eq_some_iff.mp hsome
    exact ⟨unbroken_fieldType? hg htype, hfields f hf⟩
  have hconstructor : (entityConstructor g e).Plain := by
    refine plain_constructorCode hname ?_ (List.forall_mem_cons.mpr ⟨?_, ?_⟩)
    · refine List.forall_mem_map.mpr fun typed hmem => ?_
      simp +decide [toString, (htyped typed hmem).1, (htyped typed hmem).2.camel]
    · split_ifs <;> decide
    · refine List.forall_mem_map.mpr fun typed hmem => .ended ?_
      simp +decide [toString, (htyped typed hmem).2.pascal, (htyped typed hmem).2.camel]
  rw [entityCode_eq]
  refine plain_class (by decide) hname ?_
  simp only [entityBody, List.cons_append, List.forall_mem_cons, List.forall_mem_append,
    List.forall_mem_map, Code.plain_line_iff]
  refine ⟨?_, fun f hf => plain_propertyCode hg (hfields f hf), Code.plain_blank, hconstructor,
    Code.plain_blank, by decide, by decide, List.forall_mem_nil _⟩
  exact .of_head (by simp +decide [toString, unbroken_typeName]) (by simp [toString])

theorem plain_useCaseCode {u : UseCase} (hu : u ∈ g.useCases) : ∀ c ∈ useCaseCode g u, c.Plain := by
  have hwording := hg .useCase u hu
  simp only [Kind.wording, List.forall_mem_cons, List.forall_mem_map, List.forall_mem_append]
    at hwording
  obtain ⟨hname, hinput, houtput, hinputs, houtputs⟩ := hwording
  have hparameters : ∀ p ∈ parameters g u, Unbroken p.1 ∧ Unbroken p.2 := by
    refine List.forall_mem_map.mpr fun r hr => ?_
    have hr' := unbroken_of_mem_dependencies hg hr
    exact ⟨hr', unbroken_dependencyName hr'⟩
  have hconstructor : (useCaseConstructor g u).Plain := by
    refine plain_constructorCode hname ?_ ?_ <;> refine List.forall_mem_map.mpr fun p hp => ?_
    · simp +decide [toString, hparameters p hp]
    · exact .of_head (by simp +decide [toString, hparameters p hp]) (by simp [toString])
  have hdeclarations : ∀ t ∈ declarations g u, PlainText t := by
    refine List.forall_mem_map.mpr fun p hp => ?_
    exact .of_head (by simp +decide [toString, hparameters p hp]) (by simp [toString])
  have hexecute : (executeCode u).Plain := by
    simp only [executeCode, Code.plain_block_iff, List.forall_mem_cons, Code.plain_line_iff]
    refine ⟨.of_head ?_ ?_, by decide, by decide, List.forall_mem_nil _⟩
    · simp +decide [toString, hinput, houtput]
    · simp [toString]
  have hblank : ∀ c ∈ if (dependencies g u).isEmpty then [] else [Code.blank], c.Plain := by
    split_ifs
    · exact List.forall_mem_nil _
    · exact List.forall_mem_singleton.mpr Code.plain_blank
  rw [useCaseCode_eq]
  refine plain_class ?_ hname ?_
  · simp only [List.forall_mem_cons]
    exact ⟨by decide, by decide, by decide, by decide, plainText_recordLine hinput hinputs,
      plainText_recordLine houtput houtputs, by decide, List.forall_mem_nil _⟩
  · simp only [useCaseBody, List.forall_mem_append, List.forall_mem_map, List.forall_mem_cons,
      Code.plain_line_iff]
    exact ⟨⟨hdeclarations, hblank⟩, hconstructor, Code.plain_blank, hexecute, List.forall_mem_nil _⟩

/-- A source is laid out, unless it is for an aggregate whose root is missing. -/
theorem laidOut_emit {k : Kind} {n : k.Node} (hn : n ∈ g.nodes k) :
    LaidOut (emit g k n) ∨
      ∃ a ∈ g.aggregates, g.find? .entity a.root = none ∧ emit g k n = missingRootComment a := by
  cases k with
  | valueObject => exact .inl (Code.laidOut_text rfl (plain_valueObjectCode (hg _ n hn)))
  | entity => exact .inl (Code.laidOut_text rfl (plain_entityCode hg hn))
  | aggregate =>
      cases hroot : g.find? .entity (Aggregate.root n) with
      | none => exact .inr ⟨n, hn, hroot, by rw [emit, hroot]⟩
      | some root =>
          have hplain := plain_aggregateCode (hg _ n hn) (unbroken_find? hg (k := .entity) hroot)
          rw [emit, hroot]
          exact .inl (Code.laidOut_text rfl hplain)
  | repository => exact .inl (Code.laidOut_text rfl (plain_repositoryCode (hg _ n hn)))
  | useCase => exact .inl (Code.laidOut_text rfl (plain_useCaseCode hg hn))

end References

open Blueprint.Language (csharp)

/-- As long as no name, signature or invariant breaks a line, every source of a graph is laid out
but those of aggregates whose root is missing, which are a single comment. -/
theorem sources_laidOut {g : Graph} (hg : g.Unbroken) {f : SourceFile} (hf : f ∈ g.sources csharp) :
    LaidOut f.content ∨
      ∃ a ∈ g.aggregates, g.find? .entity a.root = none ∧ f.content = missingRootComment a := by
  obtain ⟨k, -, hk⟩ := List.mem_flatMap.mp hf
  obtain ⟨n, hn, rfl⟩ := List.mem_map.mp hk
  exact laidOut_emit hg hn

/-- The starter design with braces for names, a signature and an invariant. -/
def braced : Graph :=
  { Graph.starter with
    repositories := [⟨⟨"repo-1"⟩, "\x7d", [⟨"Open", "\x7b"⟩, ⟨"Close", "\x7d"⟩]⟩]
    aggregates := [⟨⟨"agg-1"⟩, "\x7b", ⟨"entity-1"⟩, [], ["\x7d"]⟩] }

theorem sources_laidOut_of_braced : braced.Unbroken ∧ (braced.sources csharp).length = 5 ∧
    ∀ f ∈ braced.sources csharp, LaidOut f.content := by
  have hunbroken : braced.Unbroken := by
    intro k
    cases k <;> decide
  have hroots : ∀ a ∈ braced.aggregates, braced.find? .entity a.root ≠ none := by decide
  refine ⟨hunbroken, rfl, fun f hf => (sources_laidOut hunbroken hf).resolve_right ?_⟩
  rintro ⟨a, ha, hroot, -⟩
  exact hroots a ha hroot

end CSharp

end Blueprint
