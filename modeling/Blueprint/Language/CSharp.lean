import Blueprint.Source.File
import Blueprint.Source.Layout
import Blueprint.Text.Case

/-!
# C# sources

Value objects become record structs with a checking factory, entities and aggregates classes with
private setters, repositories interfaces, and use cases classes with their request and response
records. A field or a root that does not resolve leaves a comment behind; a repository that does
not resolve is left out.
-/

namespace Blueprint.CSharp

open Text (pascal camel)

def typeName : Primitive → String
  | .string => "string"
  | .int => "int"
  | .decimal => "decimal"
  | .guid => "Guid"
  | .dateTime => "DateTime"
  | .bool => "bool"

def commaList (items : List String) : String := ", ".intercalate items

def recordMember (f : Field) : String := s!"{typeName f.type} {pascal f.name}"

def throwArgument (condition : String) (message : String) : String :=
  s!"if ({condition}) throw new ArgumentException(\"{message}\");"

/-- The check of a field's value that its type calls for. -/
def guard? (f : Field) : Option String :=
  let param := camel f.name
  let label := pascal f.name
  match f.type with
  | .decimal => some (throwArgument s!"{param} < 0" s!"{label} cannot be negative")
  | .string => some (throwArgument s!"string.IsNullOrWhiteSpace({param})" s!"{label} is required")
  | _ => none

def valueObjectCode (v : ValueObject) : List Code :=
  let members := commaList (v.fields.map recordMember)
  let params := commaList (v.fields.map fun f => s!"{typeName f.type} {camel f.name}")
  let args := commaList (v.fields.map fun f => camel f.name)
  [.line "namespace Domain.ValueObjects;", .blank,
    .block s!"public readonly record struct {v.name}({members})"
      [.block s!"public static {v.name} Create({params})"
        ((v.fields.filterMap guard?).map .line ++ [.line s!"return new {v.name}({args});"])]]

/-- The name of a field's type, when it has one. -/
def fieldType? (g : Graph) : EntityField → Option String
  | .primitive _ type => some (typeName type)
  | .valueObject _ target => (g.find? .valueObject target).map ValueObject.name

def propertyCode (g : Graph) (f : EntityField) : Code :=
  match fieldType? g f with
  | some type => .line (s!"public {type} {pascal f.name} \x7b get; private set; \x7d")
  | none => .line s!"// Missing VO: {f.name}"

/-- The fields of an entity that have a type, with it. -/
def typedFields (g : Graph) (e : Entity) : List (String × EntityField) :=
  e.fields.filterMap fun f => (fieldType? g f).map (·, f)

def entityCode (g : Graph) (e : Entity) : List Code :=
  let typed := typedFields g e
  let params := commaList (typed.map fun (type, f) => s!"{type} {camel f.name}")
  let fresh := if e.idType = .guid then "Guid.NewGuid()" else "default"
  [.line "namespace Domain.Entities;", .line "using Domain.ValueObjects;", .blank,
    .block s!"public class {e.name}"
      (.line (s!"public {typeName e.idType} Id \x7b get; private set; \x7d") ::
        e.fields.map (propertyCode g) ++
        [.blank,
          .block s!"public {e.name}({params})"
            (.line s!"Id = {fresh};" ::
              typed.map fun (_, f) => .line s!"{pascal f.name} = {camel f.name};"),
          .blank,
          .line "// Domain methods",
          .line "// TODO: Add behavior methods that enforce business rules"])]

def invariantCode (i : Nat) (invariant : String) : List Code :=
  [.line s!"// Invariant {i + 1}: {invariant}", .line "// TODO: Implement validation logic"]

def aggregateCode (a : Aggregate) (root : Entity) : List Code :=
  [.line "namespace Domain.Aggregates;", .line "using Domain.Entities;", .blank,
    .block s!"public class {a.name}"
      [.line (s!"public {root.name} Root \x7b get; private set; \x7d"), .blank,
        .block s!"public {a.name}({root.name} root)"
          [.line "Root = root ?? throw new ArgumentNullException(nameof(root));",
            .line "EnforceInvariants();"],
        .blank,
        .block "public void EnforceInvariants()" (a.invariants.mapIdx invariantCode).flatten,
        .blank,
        .line "// Aggregate operations",
        .line "// TODO: Add methods that coordinate changes across the aggregate"]]

def missingRootComment (a : Aggregate) : String := s!"// Missing root entity for aggregate {a.name}"

def repositoryCode (r : Repository) : List Code :=
  [.line "namespace Application.Ports;", .line "using Domain.Entities;", .blank,
    .block s!"public interface {r.name}" (r.methods.map fun m => .line s!"{m.signature};")]

/-- The name of the parameter that holds a repository: an `I` in front is dropped. -/
def dependencyName (repository : String) : String :=
  match repository.toList with
  | 'I' :: rest => camel (String.ofList rest)
  | _ => camel repository

/-- The names of the repositories that a use case gets. -/
def dependencies (g : Graph) (u : UseCase) : List String :=
  u.repositories.filterMap fun id => (g.find? .repository id).map Repository.name

def useCaseCode (g : Graph) (u : UseCase) : List Code :=
  let deps := (dependencies g u).map fun r => (r, dependencyName r)
  let params := commaList (deps.map fun (r, d) => s!"{r} {d}")
  let record (s : Shape) : Code :=
    .line s!"public record {s.name}({commaList (s.fields.map recordMember)});"
  [.line "namespace Application.UseCases;", .line "using Application.Ports;",
    .line "using Domain.Entities;", .blank, record u.input, record u.output, .blank,
    .block s!"public class {u.name}"
      ((if deps.isEmpty then []
        else (deps.map fun (r, d) => .line s!"private readonly {r} _{d};") ++ [.blank]) ++
        [.block s!"public {u.name}({params})"
          (deps.map fun (_, d) =>
            .line s!"_{d} = {d} ?? throw new ArgumentNullException(nameof({d}));"),
          .blank,
          .block
            (s!"public async Task<{u.output.name}> ExecuteAsync({u.input.name} request, " ++
              "CancellationToken ct = default)")
            [.line "// TODO: Implement use case logic",
              .line "throw new NotImplementedException();"]])]

def emit (g : Graph) : (k : Kind) → k.Node → String
  | .valueObject, v => Code.text (valueObjectCode v)
  | .entity, e => Code.text (entityCode g e)
  | .aggregate, a =>
    match g.find? .entity (Aggregate.root a) with
    | some root => Code.text (aggregateCode a root)
    | none => missingRootComment a
  | .repository, r => Code.text (repositoryCode r)
  | .useCase, u => Code.text (useCaseCode g u)

end Blueprint.CSharp

namespace Blueprint.Language

def csharp : Language := ⟨"csharp", "cs", CSharp.emit⟩

def all : List Language := [csharp]

/-- Looks a language up by its name or file extension, up to the case of ASCII letters. -/
def find? (s : String) : Option Language :=
  all.find? fun l => Text.sameLetters l.name s || Text.sameLetters l.extension s

end Blueprint.Language
