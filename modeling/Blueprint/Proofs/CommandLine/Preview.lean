import Blueprint.Proofs.CommandLine.Refusal
import Blueprint.Proofs.Source.Repeats

/-!
# What is shown and what is written

Blocks of one kind with one name make files with one path. `show` prints the file of the first of
them, while a plan, and so what is compared and written, holds the file of the last. The two are
the same unless a run would report the path as repeated.
-/

namespace Blueprint

namespace Plan

variable {σ : Type} [FileSystem σ] {fs : σ} {root : Path} {plan : Plan}
  {files : List SourceFile} (h : make fs root files = .ok plan)
include h

theorem file_find?_of_make (path : String) :
    (plan.find? path).map PlannedFile.file = lastSource? files path := by
  obtain ⟨planned, hplanned, rfl⟩ := make_eq_ok_iff.mp h
  rw [find?, find?_foldl_place, List.find?_nil, Option.or_none, lastSource?,
    ← map_file_of_mapM hplanned, ← List.map_reverse, List.find?_map]
  rfl

theorem planFile_of_find? {path : String} {planned : PlannedFile}
    (hfind : plan.find? path = some planned) : planFile fs root planned.file = .ok planned :=
  ((mem_files_iff_of_make h).mp (List.mem_of_find?_eq_some hfind)).2

end Plan

namespace Graph

variable (g : Graph) (l : Language) (k : Kind) (name : String)

theorem file?_path : (l.compile g).file? (l.path k name) =
    (g.namesakes k name).head?.map (l.file g k) := by
  rw [Compiled.file?, ← List.head?_filter, Language.compile, filter_sources, List.head?_map]

theorem lastSource?_path : lastSource? (g.sources l) (l.path k name) =
    (g.namesakes k name).getLast?.map (l.file g k) := by
  rw [lastSource?, ← List.getLast?_filter, filter_sources, List.getLast?_map]

variable {g l}

theorem file?_eq_of_not_mem_repeatedPaths {path : String}
    (h : path ∉ repeatedPaths (g.sources l)) :
    (l.compile g).file? path = lastSource? (g.sources l) path := by
  rw [mem_repeatedPaths_iff] at h
  rw [Compiled.file?, lastSource?, ← List.head?_filter, ← List.getLast?_filter, Language.compile]
  cases hfiles : (g.sources l).filter (·.path == path) with
  | nil => rfl
  | cons f files =>
      -- A second file with the path would make it a repeated one.
      cases files with
      | nil => rfl
      | cons f' files => exact absurd (by simp [hfiles]) h

end Graph

namespace CommandLine.Session

/-- What is printed of a shown file. -/
def fileText (s : Session) (f : SourceFile) : String :=
  if s.ui.json then
    eventLine "file" "show" [("path", .string f.path), ("hash", .string f.hash),
      ("content", .string f.content)]
  else endLine f.content

theorem perform_show {s : Session} {d : Disk} {snapshot : Path} {g : Graph} {l : Language}
    (hlanguage : Language.find? s.settings.generate.language = some l)
    (himport : Snapshot.importFrom d snapshot = .ok g) {path : String} {f : SourceFile}
    (hfile : (l.compile g).file? (generatedPath path) = some f) :
    s.perform d (.show snapshot path) = .print d (s.fileText f) := by
  simp only [perform, showFile, withLanguage, hlanguage, Effect.attempt, himport, hfile, fileText]

/-- `show` prints the file of the first block that makes a path, a plan and a run that is not
blocked hold the file of the last. Their contents agree exactly when the two blocks are written
alike, and the files agree unless the path is repeated. -/
theorem shown_eq_planned_iff {σ : Type} [FileSystem σ] {l : Language} {g : Graph} {fs : σ}
    {root : Path} {plan : Plan} (hplan : Plan.make fs root (g.sources l) = .ok plan)
    {f : SourceFile} (hf : f ∈ g.sources l) :
    ∃ (k : Kind) (name : String) (first last : k.Node) (shown : SourceFile) (planned : PlannedFile),
      f.path = l.path k name ∧ (g.namesakes k name).head? = some first ∧
      (g.namesakes k name).getLast? = some last ∧
      (l.compile g).file? f.path = some shown ∧ plan.find? f.path = some planned ∧
      Plan.planFile fs root planned.file = .ok planned ∧
      (shown.content = planned.file.content ↔ l.emit g k first = l.emit g k last) ∧
      (f.path ∉ repeatedPaths (g.sources l) → shown = planned.file) ∧
      (∀ (s : Session) (d : Disk) (snapshot : Path) (asked : String),
        Language.find? s.settings.generate.language = some l →
        Snapshot.importFrom d snapshot = .ok g → generatedPath asked = f.path →
        s.perform d (.show snapshot asked) = .print d (s.fileText shown)) ∧
      ∀ (o : GenerateOptions) (details : Bool), o.out = root →
        ¬ (l.generate g o details fs).Blocked →
        ∃ r, (l.generate g o details fs).outcome = .ok r ∧ r.plan = plan := by
  obtain ⟨k, name, first, last, hpath, hfirst, hlast⟩ := Graph.exists_namesakes_of_mem_sources hf
  have hshown := g.file?_path l k name
  have hfind := Plan.file_find?_of_make hplan (l.path k name)
  rw [hfirst] at hshown
  rw [g.lastSource?_path l k name, hlast] at hfind
  obtain ⟨planned, hplanned, hfile⟩ := Option.map_eq_some_iff.mp hfind
  rw [hpath]
  refine ⟨k, name, first, last, l.file g k first, planned, rfl, hfirst, hlast, hshown, hplanned,
    Plan.planFile_of_find? hplan hplanned, ?_, ?_, ?_, ?_⟩
  · rw [hfile]
    rfl
  · intro hunique
    have hsame := Graph.file?_eq_of_not_mem_repeatedPaths hunique
    rw [hshown, g.lastSource?_path, hlast] at hsame
    exact (Option.some.inj hsame).trans hfile.symm
  · intro s d snapshot asked hlanguage himport hasked
    exact perform_show hlanguage himport (hasked ▸ hshown)
  · intro o details hout hblocked
    rw [Language.blocked_iff, Bool.not_eq_true] at hblocked
    subst hout
    cases hdry : o.dryRun with
    | true => exact ⟨_, Language.generate_of_dryRun details hblocked hdry hplan, rfl⟩
    | false => exact ⟨_, (Language.generate_of_plan details hblocked hdry hplan).1, rfl⟩

/-- The two entities have names of their own, so what is shown of the fare is what is planned. -/
theorem shown_eq_planned_iff_of_fare : ∃ plan shown planned,
    Plan.make MemoryFiles.empty ⟨"out"⟩ (rideAndFare.sources .csharp) = .ok plan ∧
      (Language.csharp.compile rideAndFare).file? "/Domain/Entities/Fare.cs" = some shown ∧
      plan.find? "/Domain/Entities/Fare.cs" = some planned ∧ shown = planned.file := by
  obtain ⟨plan, hplan⟩ : ∃ plan,
      Plan.make MemoryFiles.empty ⟨"out"⟩ (rideAndFare.sources .csharp) = .ok plan :=
    Plan.exists_make_memory fun f hf => (Graph.exists_resolve_source_iff hf).mpr
      ((by decide : ∀ f ∈ rideAndFare.sources .csharp,
        .parent ∉ (Path.mk f.path).components) f hf)
  obtain ⟨-, -, -, -, shown, planned, -, -, -, hshown, hplanned, -, -, hsame, -⟩ :=
    shown_eq_planned_iff hplan (List.getElem_mem (n := 1) (by decide))
  exact ⟨plan, shown, planned, hplan, hshown, hplanned, hsame (by decide)⟩

/-- Two value objects of one name. -/
def amountAndCurrency : Graph :=
  { Graph.empty "Shop" with
    valueObjects := [⟨⟨"vo-1"⟩, "Money", [⟨"Amount", .decimal⟩]⟩,
      ⟨⟨"vo-2"⟩, "Money", [⟨"Currency", .string⟩]⟩] }

/-- The amount is shown and the currency is planned. -/
theorem not_shown_eq_planned_of_money : ¬ ∀ (g : Graph) (fs : MemoryFiles) (root : Path)
    (plan : Plan), Plan.make fs root (g.sources .csharp) = .ok plan →
      ∀ f ∈ g.sources .csharp, ((Language.csharp.compile g).file? f.path).map SourceFile.content =
        (plan.find? f.path).map (·.file.content) := by
  intro h
  let currency : SourceFile := Language.csharp.file amountAndCurrency .valueObject
    ⟨⟨"vo-2"⟩, "Money", [⟨"Currency", .string⟩]⟩
  let plan : Plan :=
    ⟨⟨"out"⟩, [⟨currency, ⟨"out/Domain/ValueObjects/Money.cs"⟩, .new, none⟩]⟩
  have hplan : Plan.make MemoryFiles.empty ⟨"out"⟩ (amountAndCurrency.sources .csharp) =
      .ok plan := rfl
  have hcurrency : currency ∈ amountAndCurrency.sources .csharp := by decide +kernel
  exact absurd (h _ _ _ plan hplan currency hcurrency) (by decide)

end CommandLine.Session

end Blueprint
