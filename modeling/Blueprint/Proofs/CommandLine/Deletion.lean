import Blueprint.CommandLine.Run
import Blueprint.Proofs.Store.Directory

/-!
# Deleting projects from the command line

Whether a project is there is asked by loading it, so a project is deleted when it can be loaded:
then it goes from the listing, and the other projects stay. A project that is listed and cannot be
loaded is refused, and the disk stays.
-/

namespace Blueprint

open Disk

namespace DirectoryStore

variable {s : DirectoryStore} {l : Location} {name other : String} {es : List ProjectEntry}

/-- A directory that can be locked, in which the file of each project is a regular file. -/
structure Regular (s : DirectoryStore) (l : Location) : Prop where
  ready : s.Ready l
  names : ∀ file ∈ s.disk.children l, IsName file
  files : ∀ name ∈ s.projects l, ∃ bytes, s.disk.stat (s.projectPath name) = .ok (.file bytes)

namespace Regular

section Listed

variable (h : s.Regular l)
include h

theorem isName (hlisted : name ∈ s.projects l) : IsName (fileOf name) :=
  h.names _ (mem_children_iff.mpr (mem_projects_iff.mp hlisted).2)

/-- The file of a listed project is found in the directory. -/
theorem locate (hlisted : name ∈ s.projects l) :
    s.disk.locate (s.projectPath name) = .ok (l ++ [fileOf name]) := by
  obtain ⟨bytes, hstat⟩ := h.files name hlisted
  obtain ⟨l', hl', -⟩ := bind_eq_ok_iff.mp hstat
  obtain ⟨-, -, rfl⟩ := (h.ready.opens.locate_push_iff (h.isName hlisted)).mp hl'
  exact hl'

theorem entry?_ne_directory (hlisted : name ∈ s.projects l) :
    s.disk.entry? (l ++ [fileOf name]) ≠ some .directory := by
  obtain ⟨bytes, hstat⟩ := h.files name hlisted
  intro hentry
  rw [projectPath_eq, stat_push (h.isName hlisted) (h.locate hlisted), hentry] at hstat
  cases hstat

theorem load_ne_none (hname : ProjectName.check name = .ok ()) (hlisted : name ∈ s.projects l) :
    s.load name ≠ .ok none := by
  obtain ⟨bytes, hstat⟩ := h.files name hlisted
  rw [load_of_check hname, if_pos (present_of_stat hstat)]
  cases s.readGraph name (s.projectPath name) <;> simp [Except.map]

theorem mem_projects (hes : s.entries = .ok es) :
    name ∈ es.map ProjectEntry.name ↔ name ∈ s.projects l := by
  rw [entries_of_opens h.ready.opens] at hes
  obtain rfl := Except.ok.inj hes
  have hperm := sortByName_perm ProjectEntry.name ((s.projects l).map s.entryOf)
  rw [(hperm.map ProjectEntry.name).mem_iff, List.map_map]
  exact Iff.of_eq (congrArg (name ∈ ·) (List.map_id _))

end Listed

section Deleted

variable (h : s.Regular l) (hlisted : name ∈ s.projects l)
include h hlisted

theorem deleted : Ready { s with disk := s.deletedDisk l name } l :=
  h.ready.deletedDisk (mem_projects_iff.mp hlisted).1 (h.entry?_ne_directory hlisted)

/-- Deleting one project leaves the file of another as it is. -/
theorem stat_deletedDisk (hother : other ∈ s.projects l) (hne : other ≠ name) :
    (s.deletedDisk l name).stat (s.projectPath other) = s.disk.stat (s.projectPath other) := by
  rw [projectPath_eq]
  refine h.ready.opens.stat_push_congr (h.deleted hlisted).opens (h.isName hother) ?_
  rw [entry?_deletedDisk, if_neg (by simpa using fileOf_injective.ne hne),
    entry?_lockedDisk_fileOf (mem_projects_iff.mp hother).1]

theorem entries_deletedDisk (hes : s.entries = .ok es) :
    entries { s with disk := s.deletedDisk l name } = .ok (es.filter (·.name != name)) := by
  rw [entries_of_opens h.ready.opens] at hes
  obtain rfl := Except.ok.inj hes
  have hstay : ∀ other ∈ (s.projects l).filter (· != name),
      entryOf { s with disk := s.deletedDisk l name } other = s.entryOf other := by
    intro other hother
    obtain ⟨hother, hne⟩ := List.mem_filter.mp hother
    exact entryOf_congr rfl (h.stat_deletedDisk hlisted hother (by simpa using hne))
  rw [entries_of_opens (h.deleted hlisted).opens,
    projects_deletedDisk (mem_projects_iff.mp hlisted).1, List.map_congr_left hstay,
    filter_sortByName _ fun a ha b hb => entryOf_inj ha hb, List.filter_map]
  rfl

end Deleted

end Regular

end DirectoryStore

namespace CommandLine.Session

open DirectoryStore

variable {s : Session} {d : Disk} {l : Location} {name : String} {es : List ProjectEntry}

theorem deleteProject_of_load_error {f : StoreFailure} (h : (s.store d).load name = .error f) :
    s.deleteProject d name = .fail d (.failure (.store f)) := by
  have hexists : Projects.exists? (s.store d) name = .error (.store f) := by
    change (((s.store d).load name).map Option.isSome).mapError Failure.store = _
    rw [h]
    rfl
  rw [deleteProject, hexists]
  rfl

theorem deleteProject_of_load {g : Graph} {store : DirectoryStore}
    (h : (s.store d).load name = .ok (some g))
    (hdelete : (s.store d).delete name = (.ok (), store)) :
    (s.deleteProject d name).result = .ok 0 ∧ (s.deleteProject d name).disk = store.disk := by
  have hexists : Projects.exists? (s.store d) name = .ok true := by
    change (((s.store d).load name).map Option.isSome).mapError Failure.store = _
    rw [h]
    rfl
  have hdelete' : Projects.delete (s.store d) name = (.ok (), store) := by
    change ((((s.store d).delete name).1.mapError Failure.store), ((s.store d).delete name).2) = _
    rw [hdelete]
    rfl
  rw [deleteProject, hexists, hdelete']
  exact ⟨rfl, rfl⟩

/-- A listed project is deleted when it can be loaded, and else nothing changes. -/
theorem delete_listed (h : (s.store d).Regular l) (hes : (s.store d).entries = .ok es)
    (hname : ProjectName.check name = .ok ()) (hlisted : name ∈ es.map ProjectEntry.name) :
    let run := s.perform d (.deleteProject name true)
    (∀ found, (s.store d).load name = .ok found →
      run.result = .ok 0 ∧ (s.store run.disk).entries = .ok (es.filter (·.name != name)) ∧
        ∀ e ∈ es, e.name ≠ name →
          run.disk.stat ((s.store d).projectPath e.name) =
            d.stat ((s.store d).projectPath e.name)) ∧
    (∀ f, (s.store d).load name = .error f →
      run.result = .error (.failure (.store f)) ∧ run.disk = d) := by
  intro run
  have hproject : name ∈ (s.store d).projects l := (h.mem_projects hes).mp hlisted
  -- The command loads the project first: what that gives decides how it ends.
  constructor
  · intro found hload
    obtain ⟨g, rfl⟩ : ∃ g, found = some g :=
      Option.ne_none_iff_exists'.mp fun hnone => h.load_ne_none hname hproject (hnone ▸ hload)
    have hdelete := h.ready.delete_eq hname (h.locate hproject) (h.entry?_ne_directory hproject)
    obtain ⟨hresult, hdisk⟩ := deleteProject_of_load hload hdelete
    have hrun : run.disk = (s.store d).deletedDisk l name := hdisk
    rw [hrun]
    refine ⟨hresult, h.entries_deletedDisk hproject hes, fun e he hne => ?_⟩
    exact h.stat_deletedDisk hproject ((h.mem_projects hes).mp (List.mem_map_of_mem he)) hne
  · intro f hload
    have hrun : run = .fail d (.failure (.store f)) := deleteProject_of_load_error hload
    rw [hrun]
    exact ⟨rfl, rfl⟩

/-! ### A directory with a corrupted project -/

def tripsText : String := "\x7b\"meta\":\x7b\"name\":\"Trips\"\x7d\x7d"

/-- Two projects, and the file of the first one is no snapshot. -/
def mixedDisk : Disk :=
  ⟨[], [(["store"], .directory), (["store", "broken.json"], .file "x".toUTF8.toList),
    (["store", "trips.json"], .file tripsText.toUTF8.toList)]⟩

/-- A session with its projects in a directory, without a terminal. -/
def plainSession : Session where
  around := ⟨fun _ => none, false, "12:00:00", fun _ => ⟨"2024-01-01T00:00:00+00:00", 0⟩⟩
  settings := { Settings.standard with store := ⟨some ⟨"store"⟩⟩ }
  ui := ⟨false, 0, false, true⟩

theorem mixed_regular : (plainSession.store mixedDisk).Regular ["store"] where
  ready := ⟨⟨by decide, by decide⟩, by decide⟩
  names := by
    have hchildren : mixedDisk.children ["store"] = ["broken.json", "trips.json"] := by decide
    intro file hfile
    rw [show (plainSession.store mixedDisk).disk = mixedDisk from rfl, hchildren] at hfile
    simp only [List.mem_cons, List.not_mem_nil, or_false] at hfile
    obtain rfl | rfl := hfile
    · exact (isName_fileOf (by decide) : IsName (fileOf "broken"))
    · exact (isName_fileOf (by decide) : IsName (fileOf "trips"))
  files := by
    have hprojects : (plainSession.store mixedDisk).projects ["store"] = ["broken", "trips"] := by
      decide
    intro name hname
    simp only [hprojects, List.mem_cons, List.not_mem_nil, or_false] at hname
    obtain rfl | rfl := hname
    · exact ⟨"x".toUTF8.toList, rfl⟩
    · exact ⟨tripsText.toUTF8.toList, rfl⟩

theorem mixed_entries :
    (plainSession.store mixedDisk).entries = .ok [⟨"broken", 0⟩, ⟨"trips", 0⟩] := by
  have hlisted : ((plainSession.store mixedDisk).projects ["store"]).map
      (plainSession.store mixedDisk).entryOf = [⟨"broken", 0⟩, ⟨"trips", 0⟩] := by decide +kernel
  rw [entries_of_opens mixed_regular.ready.opens, hlisted,
    sortByName_eq_of_perm (List.Perm.refl _) (by decide) (by decide)]

theorem delete_listed_of_trips :
    let run := plainSession.perform mixedDisk (.deleteProject "trips" true)
    run.result = .ok 0 ∧ (plainSession.store run.disk).entries = .ok [⟨"broken", 0⟩] := by
  have hload : (plainSession.store mixedDisk).load "trips" = .ok (some (Graph.empty "Trips")) := by
    decide +kernel
  have hname : ProjectName.check "trips" = .ok () := by decide
  obtain ⟨hdeleted, -⟩ := delete_listed mixed_regular mixed_entries hname (by decide)
  obtain ⟨hresult, hentries, -⟩ := hdeleted _ hload
  exact ⟨hresult, hentries⟩

/-- A listed project whose file is corrupted is not deleted. -/
theorem not_delete_of_corrupted : ¬ ∀ (s : Session) (d : Disk) (l : Location)
    (es : List ProjectEntry) (name : String), (s.store d).Regular l →
      (s.store d).entries = .ok es → ProjectName.check name = .ok () →
      name ∈ es.map ProjectEntry.name →
      (s.perform d (.deleteProject name true)).result = .ok 0 := by
  intro h
  have hload : (plainSession.store mixedDisk).load "broken" =
      .error (.corrupted "broken" "invalid snapshot: expected value at line 1 column 1") := by
    decide +kernel
  have hdeleted := h _ _ _ _ "broken" mixed_regular mixed_entries (by decide) (by decide)
  have hrefused : plainSession.perform mixedDisk (.deleteProject "broken" true) = _ :=
    deleteProject_of_load_error hload
  rw [hrefused] at hdeleted
  cases hdeleted

end CommandLine.Session

end Blueprint
