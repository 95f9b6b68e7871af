import Blueprint.Proofs.Watch.Trace

/-!
# Changes that a watch misses

Once a watch is registered every write is noticed, so when nothing is left to notice and nothing is
under way, the text that the snapshot holds has been processed. One gap is open before that: what
is written after the first generation read the snapshot and before the registration is noticed by
nothing. `Watch.Missed` says that the last write fell into the gap and brought another text, and
this is the only way in which a quiet watch is behind its snapshot.
-/

namespace Blueprint

namespace WatchState

variable {σ : Type}

section Definitions

variable (s : WatchState σ)

/-- A registered watch with no change to notice, none to settle and no generation under way. -/
structure Quiet : Prop where
  registered : s.stage.registered
  unnoticed : s.unnoticed = 0
  pending : s.pending = false
  checked : s.stage ≠ .checking
  generated : s.stage ≠ .regenerating

/-- The text that was processed last has the digest of the one that the snapshot holds. Of a
snapshot that cannot be read nothing is asked. -/
def UpToDate : Prop := ∀ text, s.content = .ok text → s.processed = some (contentHash text)

/-- A watch that reads nothing any more, unless something is written. -/
structure Still : Prop where
  stage : s.stage ∈ [.registering, .refused, .waiting, .stopped]
  unnoticed : s.unnoticed = 0
  pending : s.pending = false

end Definitions

variable {s s' : WatchState σ}

theorem UpToDate.of_digest (h : s.processed = Watch.digest? s.content) : s.UpToDate := by
  intro text htext
  rw [h, htext, Watch.digest?]

theorem UpToDate.congr (h : s.UpToDate) (hcontent : s'.content = s.content)
    (hprocessed : s'.processed = s.processed) : s'.UpToDate := by
  intro text htext
  rw [hprocessed]
  exact h text (hcontent ▸ htext)

end WatchState

namespace Watch

variable {σ : Type} [FileSystem σ]

/-- The last write came when the first generation was over and the watch was not registered yet,
and brought another text than the one that was processed. -/
def Missed (w : Watch) (s : WatchState σ) (actions : List WatchAction) : Prop :=
  ∃ before content after, actions = before ++ .write content :: after ∧
    (w.run s before).stage = .registering ∧
    ¬ (w.run s (before ++ [.write content])).UpToDate ∧ ∀ a ∈ after, a.isWrite = false

variable {w : Watch} {s s' : WatchState σ} {a : WatchAction} {actions : List WatchAction}

theorem Missed.concat (h : w.Missed s actions) (ha : a.isWrite = false) :
    w.Missed s (actions ++ [a]) := by
  obtain ⟨before, content, after, rfl, hstage, hother, hafter⟩ := h
  refine ⟨before, content, after ++ [a], by simp, hstage, hother, ?_⟩
  exact List.forall_mem_append.mpr ⟨hafter, by simpa using ha⟩

/-! ### Steps without a write -/

/-- A watch comes to rest by processing what it reads, unless it was at rest before. -/
theorem upToDate_or_rested (hstep : WatchStep w s a s') (ha : a.isWrite = false)
    (hs : s'.stage = .registering ∨ s'.Quiet) : s'.UpToDate ∨
      (s.stage = .registering ∨ s.Quiet) ∧ s'.content = s.content ∧
        s'.processed = s.processed := by
  cases hstep with
  | write content => cases ha
  | none => exact .inr ⟨hs, rfl, rfl⟩
  | generate _ h => exact .inl (.of_digest (by rw [h.processed, h.content]))
  | regenerate _ h => exact .inl (.of_digest (by rw [h.processed, h.content]))
  | register hstage => exact .inr ⟨.inl hstage, rfl, rfl⟩
  | refuse hstage => exact .inr ⟨.inl hstage, rfl, rfl⟩
  | notice hstage _ =>
      rcases hs with hs | hs
      · cases hstage.symm.trans hs
      · cases hs.pending
  | settle _ _ =>
      rcases hs with hs | hs
      · cases hs
      · exact absurd rfl hs.checked
  | stop hstage =>
      rcases hs with hs | hs
      · cases hs
      · refine .inr ⟨.inr ⟨?_, hs.unnoticed, hs.pending, ?_, ?_⟩, rfl, rfl⟩ <;>
          simp [hstage, WatchStage.registered]
  | unreadable _ hread => exact .inl fun text htext => by cases hread.symm.trans htext
  | unchanged _ hread hsame =>
      refine .inl fun text htext => ?_
      obtain rfl := Except.ok.inj (hread.symm.trans htext)
      exact hsame
  | changed _ _ _ =>
      rcases hs with hs | hs
      · cases hs
      · exact absurd rfl hs.generated

/-- A write is noticed and leaves no quiet watch, unless it comes before the registration. -/
theorem registering_of_write {text : Except SystemFault String}
    (hs : (w.act s (.write text)).stage = .registering ∨ (w.act s (.write text)).Quiet) :
    s.stage = .registering := by
  rcases hs with hs | hs
  · exact hs
  · have hregistered : s.stage.registered = true := hs.registered
    have hunnoticed := hs.unnoticed
    simp [act, hregistered] at hunnoticed

theorem still_step (h : s.Still) (hstep : WatchStep w s a s') (ha : a.isWrite = false) :
    s'.Still ∧ s'.content = s.content ∧ s'.processed = s.processed := by
  have hstage := h.stage
  cases hstep with
  | write content => cases ha
  | none => exact ⟨h, rfl, rfl⟩
  | register _ => exact ⟨⟨by simp, h.unnoticed, h.pending⟩, rfl, rfl⟩
  | refuse _ => exact ⟨⟨by simp, h.unnoticed, h.pending⟩, rfl, rfl⟩
  | stop _ => exact ⟨⟨by simp, h.unnoticed, h.pending⟩, rfl, rfl⟩
  | notice _ hnotice => exact absurd h.unnoticed (Nat.ne_of_gt hnotice)
  | settle _ hsettle => cases h.pending.symm.trans hsettle
  | generate hs _ => simp [hs] at hstage
  | regenerate hs _ => simp [hs] at hstage
  | unreadable hs _ => simp [hs] at hstage
  | unchanged hs _ _ => simp [hs] at hstage
  | changed hs _ _ => simp [hs] at hstage

theorem still_run (h : s.Still) (hwrite : ∀ a ∈ actions, a.isWrite = false) :
    (w.run s actions).Still ∧ (w.run s actions).content = s.content ∧
      (w.run s actions).processed = s.processed := by
  induction actions generalizing s with
  | nil => exact ⟨h, rfl, rfl⟩
  | cons a actions ih =>
      obtain ⟨ha, hactions⟩ := List.forall_mem_cons.mp hwrite
      obtain ⟨hstill, hcontent, hprocessed⟩ := still_step h (w.step_act s a) ha
      obtain ⟨hlast, hcontent', hprocessed'⟩ := ih hstill hactions
      exact ⟨hlast, hcontent'.trans hcontent, hprocessed'.trans hprocessed⟩

/-! ### Before the registration -/

theorem nothing_noticed_step (hstep : WatchStep w s a s')
    (h : s.stage.registered = false → s.unnoticed = 0 ∧ s.pending = false)
    (hs : s'.stage.registered = false) : s'.unnoticed = 0 ∧ s'.pending = false := by
  cases hstep with
  | write content =>
      have hstage : s.stage.registered = false := hs
      simpa [hstage] using h hstage
  | none => exact h hs
  | generate hstage hnext =>
      rw [hnext.unnoticed, hnext.pending]
      exact h (by rw [hstage]; rfl)
  | refuse hstage => exact h (by rw [hstage]; rfl)
  | regenerate _ hnext =>
      rw [hnext.stage] at hs
      cases hs
  | notice hstage _ =>
      rw [hstage] at hs
      cases hs
  | register _ => cases hs
  | settle _ _ => cases hs
  | stop _ => cases hs
  | unreadable _ _ => cases hs
  | unchanged _ _ _ => cases hs
  | changed _ _ _ => cases hs

section Runs

variable (w) (content : Except SystemFault String) (files : σ) (actions : List WatchAction)

theorem nothing_noticed_run
    (hs : (w.run (w.start content files) actions).stage.registered = false) :
    (w.run (w.start content files) actions).unnoticed = 0 ∧
      (w.run (w.start content files) actions).pending = false := by
  induction actions using List.reverseRecOn with
  | nil => exact ⟨rfl, rfl⟩
  | append_singleton actions a ih =>
      rw [run_concat] at hs ⊢
      exact nothing_noticed_step (w.step_act _ a) ih hs

/-! ### Runs -/

/-- A watch at rest is up to date or missed a change. -/
theorem upToDate_or_missed (hs : (w.run (w.start content files) actions).stage = .registering ∨
      (w.run (w.start content files) actions).Quiet) :
    (w.run (w.start content files) actions).UpToDate ∨
      w.Missed (w.start content files) actions := by
  induction actions using List.reverseRecOn with
  | nil =>
      rcases hs with hs | hs
      · cases hs
      · cases hs.registered
  | append_singleton actions a ih =>
      cases ha : a.isWrite with
      | false =>
          rw [run_concat] at hs ⊢
          rcases upToDate_or_rested (w.step_act _ a) ha hs with hnew | ⟨hold, hcontent, hprocessed⟩
          · exact .inl hnew
          · rcases ih hold with hupToDate | hmissed
            · exact .inl (hupToDate.congr hcontent hprocessed)
            · exact .inr (hmissed.concat ha)
      | true =>
          cases a with
          | write text =>
              have hstage := registering_of_write (w := w) (by rwa [run_concat] at hs)
              by_cases hnew : (w.run (w.start content files) (actions ++ [.write text])).UpToDate
              · exact .inl hnew
              · exact .inr ⟨actions, text, [], rfl, hstage, hnew, by simp⟩
          | _ => cases ha

theorem not_upToDate_of_missed (h : w.Missed (w.start content files) actions) :
    ¬ (w.run (w.start content files) actions).UpToDate := by
  obtain ⟨before, text, after, rfl, hstage, hother, hafter⟩ := h
  have hnone := w.nothing_noticed_run content files before (by rw [hstage]; rfl)
  have hstill : (w.run (w.start content files) (before ++ [.write text])).Still := by
    rw [run_concat]
    refine ⟨by simp [act, hstage], ?_, hnone.2⟩
    simp [act, hstage, hnone.1, WatchStage.registered]
  obtain ⟨-, hcontent, hprocessed⟩ := still_run (w := w) hstill hafter
  have hrun : w.run (w.start content files) (before ++ .write text :: after) =
      w.run (w.run (w.start content files) (before ++ [.write text])) after := by
    simp [run]
  rw [hrun]
  exact fun hupToDate => hother (hupToDate.congr hcontent.symm hprocessed.symm)

/-- With every write of a snapshot and every step of a watch in any order, the watch is quiet only
when it is up to date, or when the last write came between the first generation and the
registration. -/
theorem upToDate_iff_not_missed (hquiet : (w.run (w.start content files) actions).Quiet) :
    (w.run (w.start content files) actions).UpToDate ↔
      ¬ w.Missed (w.start content files) actions := by
  constructor
  · exact fun hupToDate hmissed => w.not_upToDate_of_missed content files actions hmissed hupToDate
  · exact (w.upToDate_or_missed content files actions (.inr hquiet)).resolve_right

end Runs

/-- A snapshot that appears is dealt with after the registration and missed before it. -/
theorem upToDate_iff_not_missed_of_appearing :
    let start : WatchState MemoryFiles := modelWatch.start (.error .notFound) MemoryFiles.empty
    let late := [.proceed, .proceed] ++ edit "[]"
    let early := [.proceed, .write (.ok "[]"), .proceed]
    ((modelWatch.run start late).Quiet ∧ ¬ modelWatch.Missed start late) ∧
      (modelWatch.run start early).Quiet ∧ ¬ (modelWatch.run start early).UpToDate := by
  intro start late early
  have hlate : (modelWatch.run start late).Quiet := ⟨rfl, rfl, rfl, nofun, nofun⟩
  have hearly : (modelWatch.run start early).Quiet := ⟨rfl, rfl, rfl, nofun, nofun⟩
  refine ⟨⟨hlate, (upToDate_iff_not_missed modelWatch _ _ late hlate).mp ?_⟩, hearly, fun h => ?_⟩
  · exact .of_digest rfl
  · refine (upToDate_iff_not_missed modelWatch _ _ early hearly).mp h
      ⟨[.proceed], .ok "[]", [.proceed], rfl, rfl, fun hnew => ?_, by simp [WatchAction.isWrite]⟩
    cases hnew "[]" rfl

/-- What is written between the first generation and the registration is never processed. -/
theorem not_upToDate_of_unregistered :
    let start : WatchState MemoryFiles := modelWatch.start (.ok "old") MemoryFiles.empty
    let s := modelWatch.run start [.proceed, .write (.ok "new"), .proceed]
    s.Quiet ∧ ¬ s.UpToDate := by
  intro start s
  have hdigest : contentHash "old" ≠ contentHash "new" := by decide +kernel
  refine ⟨⟨rfl, rfl, rfl, nofun, nofun⟩, fun hupToDate => ?_⟩
  exact hdigest (Option.some.inj (hupToDate "new" rfl))

end Watch

end Blueprint
