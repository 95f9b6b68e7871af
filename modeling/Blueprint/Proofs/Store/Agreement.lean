import Blueprint.Proofs.Store.Mirror
import Blueprint.Store.Projects

/-!
# Stores that answer alike

Any calls get the same answers from a store in a directory and from one in memory when both start
empty. The directory is made by the first call that writes; from then on it mirrors the memory.
-/

namespace Blueprint

open Disk

/-! ### Calls -/

/-- What is asked of a store of projects. -/
inductive Call where
  | save (name : String) (g : Graph)
  | load (name : String)
  | exists? (name : String)
  | delete (name : String)
  | list
  | names
  deriving DecidableEq

inductive Answer where
  | done (r : Except Failure Unit)
  | graph (r : Except Failure Graph)
  | found (r : Except Failure Bool)
  | entries (r : Except Failure (List ProjectEntry))
  | names (r : Except Failure (List String))
  deriving DecidableEq

namespace Call

variable {σ : Type} [GraphStore σ]

def perform (s : σ) : Call → Answer × σ
  | .save name g =>
    let (r, s) := Projects.save s name g
    (.done r, s)
  | .load name => (.graph (Projects.load s name), s)
  | .exists? name => (.found (Projects.exists? s name), s)
  | .delete name =>
    let (r, s) := Projects.delete s name
    (.done r, s)
  | .list => (.entries (Projects.list s), s)
  | .names => (.names (Projects.names s), s)

/-- The answers to calls, each of which is done on the store that the one before it left. -/
def answers (s : σ) : List Call → List Answer
  | [] => []
  | c :: cs => (perform s c).1 :: answers (perform s c).2 cs

/-- Whether file names fit for the accepted names, and whether saved graphs have names. -/
def Fair (dir : Path) : Call → Prop
  | .save name g =>
    ProjectName.check name = .ok () → DirectoryStore.Fits dir name ∧ g.heading.name ≠ ""
  | .load name => ProjectName.check name = .ok () → DirectoryStore.Fits dir name
  | .exists? name => ProjectName.check name = .ok () → DirectoryStore.Fits dir name
  | .delete name => ProjectName.check name = .ok () → DirectoryStore.Fits dir name
  | .list => True
  | .names => True

instance (dir : Path) : DecidablePred (Fair dir)
  | .save _ _ => inferInstanceAs (Decidable (_ → _ ∧ _))
  | .load _ => inferInstanceAs (Decidable (_ → _))
  | .exists? _ => inferInstanceAs (Decidable (_ → _))
  | .delete _ => inferInstanceAs (Decidable (_ → _))
  | .list => instDecidableTrue
  | .names => instDecidableTrue

end Call

namespace DirectoryStore

variable {s : DirectoryStore} {m : MemoryStore} {l : Location} {dir : Path} {name : String}
  {g : Graph}

/-! ### Empty stores -/

/-- The store with its directory made. -/
def opened (s : DirectoryStore) : DirectoryStore :=
  { s with disk := (s.disk.makeDirectories s.dir).2 }

/-- The directory can be made and locked, and no project is in it. -/
structure Fresh (s : DirectoryStore) : Prop where
  made : (s.disk.makeDirectories s.dir).1 = .ok ()
  lock : (s.opened.disk.replace (s.dir.push lockName) []).1 = .ok ()
  bare : s.opened.entries = .ok []

theorem extends_opened (s : DirectoryStore) : s.disk.Extends s.opened.disk :=
  makeDirectoriesUp_extends s.disk s.dir.components.reverse

namespace Fresh

variable (h : s.Fresh) (hdir : s.dir.text ≠ "")
include h hdir

theorem exists_ready : ∃ l, s.opened.Ready l := by
  obtain ⟨l', hlock, -⟩ := replace_eq_ok_iff.mp (Prod.ext h.lock rfl)
  have htakes : Takes s.dir := takes_of_takes_push isName_lockName (takes_of_locate hlock) hdir
  obtain ⟨l, hopens⟩ := opens_of_makeDirectories htakes (Prod.ext h.made rfl)
  exact ⟨l, hopens, h.lock⟩

theorem exists_mirrors : ∃ l, s.opened.Mirrors l MemoryStore.empty := by
  obtain ⟨l, hready⟩ := h.exists_ready hdir
  have hprojects : s.opened.projects l = [] := by
    have hentries := Except.ok.inj ((entries_of_opens hready.opens).symm.trans h.bare)
    have hperm := sortByName_perm ProjectEntry.name ((s.opened.projects l).map s.opened.entryOf)
    rw [hentries] at hperm
    simpa using hperm
  refine ⟨l, hready, ?_, fun name hne => ?_, List.Pairwise.nil, fun name g hfind => ?_⟩
  · rw [hprojects]
    exact List.nodup_nil
  · have hnot : name ∉ s.opened.projects l := by simp [hprojects]
    rw [mem_projects_iff] at hnot
    have hfile : s.opened.disk.entry? (l ++ [fileOf name]) = none := by simpa [hne] using hnot
    exact hfile
  · cases hfind

/-- An operation makes the directory itself. -/
theorem locked_opened (op : Operation) : s.locked op = s.opened.locked op := by
  obtain ⟨l, hready⟩ := h.exists_ready hdir
  have hmake : s.disk.makeDirectories s.dir = (.ok (), s.opened.disk) := Prod.ext h.made rfl
  have hopened : s.opened.disk.makeDirectories s.opened.dir = (.ok (), s.opened.disk) :=
    hready.opens.makeDirectories
  rw [locked, locked, hmake, hopened]
  rfl

theorem load (hfits : ProjectName.check name = .ok () → Fits s.dir name) :
    s.load name = GraphStore.load MemoryStore.empty name := by
  obtain ⟨l, hmirrors⟩ := h.exists_mirrors hdir
  change _ = (ProjectName.check name).map fun _ => MemoryStore.empty.find? name
  cases hname : ProjectName.check name with
  | error e => exact load_of_check_error hname
  | ok _ =>
      have hopened : s.opened.disk.stat (s.projectPath name) = .error .notFound :=
        hmirrors.stat hname (hfits hname)
      have habsent : ¬s.disk.present (s.projectPath name) := by
        intro hpresent
        have hopened' := (extends_opened s).present hpresent
        rw [present, hopened] at hopened'
        cases hopened'
      rw [load_of_check hname, if_neg habsent]
      rfl

theorem entries : s.entries = GraphStore.entries MemoryStore.empty := by
  obtain ⟨l, hmirrors⟩ := h.exists_mirrors hdir
  cases hstat : s.disk.stat s.dir with
  | error e =>
      rw [DirectoryStore.entries, present, hstat]
      rfl
  | ok e =>
      -- What was there already is the directory that is opened, so nothing was in it before.
      have hopened : s.opened.disk.stat s.dir = .ok .directory :=
        stat_eq_directory_iff.mpr ⟨l, hmirrors.ready.opens⟩
      obtain rfl := Except.ok.inj (((extends_opened s).stat hstat).symm.trans hopened)
      obtain ⟨l', hopens⟩ := stat_eq_directory_iff.mp hstat
      obtain rfl : l' = l :=
        Except.ok.inj ((hopens.of_keeps (extends_opened s).keeps).located.symm.trans
          hmirrors.ready.opens.located)
      have hbare : s.opened.projects l' = [] := List.perm_nil.mp hmirrors.projects_perm
      have hsub : s.projects l' ⊆ s.opened.projects l' := projects_subset (extends_opened s)
      have hprojects : s.projects l' = [] := List.subset_nil.mp (hbare ▸ hsub)
      rw [entries_of_opens hopens, hprojects, List.map_nil, sortByName, List.mergeSort_nil]
      rfl

end Fresh

/-! ### Steps -/

section Locked

variable {s₀ : DirectoryStore} (hdir : s.dir = s₀.dir) (hlocked : ∀ op, s.locked op = s₀.locked op)
  (hname : ProjectName.check name = .ok ())
include hdir hlocked hname

theorem save_of_locked : s.save name g = s₀.save name g := by
  rw [save, save, hname, projectPath, projectPath, hdir]
  simp only [hlocked]

theorem delete_of_locked : s.delete name = s₀.delete name := by
  rw [delete, delete, hname, projectPath, projectPath, hdir]
  simp only [hlocked]

end Locked

/-- How a store in a directory stands to one in memory while they answer alike. -/
inductive Agrees (dir : Path) : DirectoryStore → MemoryStore → Prop
  | fresh {s : DirectoryStore} (h : s.Fresh) (hdir : s.dir = dir) :
      Agrees dir s MemoryStore.empty
  | mirrors {s : DirectoryStore} {l : Location} {m : MemoryStore} (h : s.Mirrors l m)
      (hdir : s.dir = dir) : Agrees dir s m

namespace Agrees

section Step

variable (h : Agrees dir s m) (hdir : dir.text ≠ "")
include h hdir

theorem load (hfits : ProjectName.check name = .ok () → Fits dir name) :
    GraphStore.load s name = GraphStore.load m name := by
  cases h with
  | fresh h hs =>
      subst hs
      exact h.load hdir hfits
  | mirrors h hs =>
      subst hs
      exact h.load hfits

theorem entries : GraphStore.entries s = GraphStore.entries m := by
  cases h with
  | fresh h hs =>
      subst hs
      exact h.entries hdir
  | mirrors h hs => exact h.entries

/-- Writing goes on from a directory that mirrors the memory. -/
theorem exists_mirrors : ∃ (s₀ : DirectoryStore) (l : Location), s₀.Mirrors l m ∧ s₀.dir = dir ∧
    s.dir = dir ∧ ∀ op, s.locked op = s₀.locked op := by
  cases h with
  | fresh h hs =>
      subst hs
      obtain ⟨l, hmirrors⟩ := h.exists_mirrors hdir
      exact ⟨s.opened, l, hmirrors, rfl, rfl, h.locked_opened hdir⟩
  | mirrors h hs => exact ⟨s, _, h, hs, hs, fun _ => rfl⟩

theorem save (hfair : ProjectName.check name = .ok () → Fits dir name ∧ g.heading.name ≠ "") :
    (GraphStore.save s name g).1 = (GraphStore.save m name g).1 ∧
      Agrees dir (GraphStore.save s name g).2 (GraphStore.save m name g).2 := by
  change (s.save name g).1 = _ ∧ Agrees dir (s.save name g).2 _
  simp only [GraphStore.save]
  cases hname : ProjectName.check name with
  | error e =>
      rw [DirectoryStore.save, hname]
      exact ⟨rfl, h⟩
  | ok _ =>
      obtain ⟨hfits, hgraph⟩ := hfair hname
      obtain ⟨s₀, l, hmirrors, hs₀, hs, hlocked⟩ := h.exists_mirrors hdir
      obtain ⟨s', hsave, hs', hafter⟩ := hmirrors.save hname (by rwa [hs₀]) hgraph
      rw [save_of_locked (hs.trans hs₀.symm) hlocked hname, hsave]
      exact ⟨rfl, mirrors hafter (hs'.trans hs₀)⟩

theorem delete (hfits : ProjectName.check name = .ok () → Fits dir name) :
    (GraphStore.delete s name).1 = (GraphStore.delete m name).1 ∧
      Agrees dir (GraphStore.delete s name).2 (GraphStore.delete m name).2 := by
  change (s.delete name).1 = _ ∧ Agrees dir (s.delete name).2 _
  simp only [GraphStore.delete]
  cases hname : ProjectName.check name with
  | error e =>
      rw [DirectoryStore.delete, hname]
      exact ⟨rfl, h⟩
  | ok _ =>
      obtain ⟨s₀, l, hmirrors, hs₀, hs, hlocked⟩ := h.exists_mirrors hdir
      obtain ⟨s', hdelete, hs', hafter⟩ := hmirrors.delete hname (by rw [hs₀]; exact hfits hname)
      rw [delete_of_locked (hs.trans hs₀.symm) hlocked hname, hdelete]
      exact ⟨rfl, mirrors hafter (hs'.trans hs₀)⟩

/-- A call gets one answer from both stores and leaves them in agreement. -/
theorem perform {c : Call} (hc : c.Fair dir) :
    (c.perform s).1 = (c.perform m).1 ∧ Agrees dir (c.perform s).2 (c.perform m).2 := by
  cases c with
  | save name g =>
      obtain ⟨hresult, hafter⟩ := h.save hdir hc
      refine ⟨?_, hafter⟩
      simp only [Call.perform, Projects.save, hresult]
  | load name =>
      refine ⟨?_, h⟩
      simp only [Call.perform, Projects.load, h.load hdir hc]
  | exists? name =>
      refine ⟨?_, h⟩
      simp only [Call.perform, Projects.exists?, h.load hdir hc]
  | delete name =>
      obtain ⟨hresult, hafter⟩ := h.delete hdir hc
      refine ⟨?_, hafter⟩
      simp only [Call.perform, Projects.delete, hresult]
  | list =>
      refine ⟨?_, h⟩
      simp only [Call.perform, Projects.list, h.entries hdir]
  | names =>
      refine ⟨?_, h⟩
      simp only [Call.perform, Projects.names, Projects.list, h.entries hdir]

end Step

/-! ### Runs -/

theorem answers {cs : List Call} (hdir : dir.text ≠ "") (hcs : ∀ c ∈ cs, c.Fair dir)
    (h : Agrees dir s m) : Call.answers s cs = Call.answers m cs := by
  -- A step changes both stores, so the agreement is what the induction carries.
  induction cs generalizing s m with
  | nil => rfl
  | cons c cs ih =>
      obtain ⟨hanswer, hafter⟩ := h.perform hdir (hcs c (by simp))
      rw [Call.answers, Call.answers, hanswer, ih (fun c hc => hcs c (by simp [hc])) hafter]

end Agrees

/-- An empty store in a directory answers any calls as an empty store in memory does. -/
theorem answers_eq_memory {cs : List Call} (h : s.Fresh) (hdir : s.dir.text ≠ "")
    (hcs : ∀ c ∈ cs, c.Fair s.dir) : Call.answers s cs = Call.answers MemoryStore.empty cs :=
  Agrees.answers hdir hcs (Agrees.fresh h rfl)

/-- A store whose directory is still to be made. -/
def unmade : DirectoryStore := ⟨⟨"store"⟩, Disk.blank ["work"]⟩

theorem unmade_fresh : unmade.Fresh where
  made := by decide
  lock := by decide
  bare := by
    have hopens : unmade.opened.disk.Opens unmade.opened.dir ["work", "store"] :=
      ⟨by decide, by decide⟩
    have hprojects : unmade.opened.projects ["work", "store"] = [] := by decide
    rw [entries_of_opens hopens, hprojects, List.map_nil, sortByName, List.mergeSort_nil]

/-- Names with dots, a name that is saved twice, one that is missing, and one that is rejected. -/
theorem answers_eq_memory_of_unmade :
    let trips := Graph.empty "Trips"
    let cs : List Call := [.exists? ".a", .save ".a" trips, .save "b.json" trips,
      .save ".a" { trips with heading := ⟨"Trips", 2⟩ }, .save "../c" trips, .delete "c", .names,
      .load ".a", .delete "b.json", .list]
    Call.answers unmade cs = Call.answers MemoryStore.empty cs :=
  answers_eq_memory unmade_fresh (by decide) (by decide)

/-- A store with no path for its directory keeps a project and does not list it. -/
theorem answers_ne_memory_of_no_path : ¬ ∀ (s : DirectoryStore) (cs : List Call), s.Fresh →
    (∀ c ∈ cs, c.Fair s.dir) → Call.answers s cs = Call.answers MemoryStore.empty cs := by
  intro h
  let s : DirectoryStore := ⟨⟨""⟩, Disk.blank ["work"]⟩
  have hfresh : s.Fresh := ⟨by decide, by decide, by decide⟩
  have hanswers := h s [.save "p" (Graph.empty "Trips"), .names] hfresh (by decide)
  exact absurd hanswers (by decide)

end DirectoryStore

end Blueprint
