import Blueprint.Diff.Compact
import Blueprint.Proofs.Diff.Script

/-!
# Moving and merging runs

What is done to a script to make it compact leaves it valid: an insertion that trades its last lines
for the same lines kept before it, or its first for those kept after it, a run without lines that is
dropped, a deletion and an insertion that change places, and two runs with the same tag that become
one. Each of these is a step between a few runs that lead from and to the same places.
-/

namespace Blueprint.Diff

variable {a b : Array String} {runs rest : List Run} {r : Run} {i j k l p q m n : Nat}

/-- What is kept in front of a script goes to a run of it that is kept, if it begins with one. -/
def keepBefore (i j m : Nat) : List Run → List Run
  | ⟨.keep, old, new, len⟩ :: rest => Run.growLeft ⟨.keep, old, new, len⟩ m :: rest
  | rest => ⟨.keep, i, j, m⟩ :: rest

def keepBehind (i j m : Nat) : List Run → List Run
  | ⟨.keep, old, new, len⟩ :: rest => Run.growRight ⟨.keep, old, new, len⟩ m :: rest
  | rest => ⟨.keep, i, j, m⟩ :: rest

/-! ### Steps -/

namespace Leads

/-- Runs at the end may be replaced by others that lead as far from where they start. -/
theorem replace {others : List Run} (h : Leads a b (runs ++ rest) i j k l)
    (hstep : ∀ {p q}, Leads a b rest p q k l → Leads a b others p q k l) :
    Leads a b (runs ++ others) i j k l := by
  obtain ⟨p, q, hruns, hrest⟩ := h.of_append
  exact hruns.append (hstep hrest)

theorem dropEmpty (h : Leads a b (r :: rest) i j k l) :
    Leads a b (Focus.dropEmpty r rest) i j k l := by
  rw [Focus.dropEmpty]
  split
  next hr =>
    cases h with
    | keep hsame h => obtain rfl : _ = 0 := hr; exact h
    | delete h => obtain rfl : _ = 0 := hr; exact h
    | insert h => obtain rfl : _ = 0 := hr; exact h
  next => exact h

theorem dropEmpty_second {s : Run} (h : Leads a b (s :: r :: rest) i j k l) :
    Leads a b (s :: Focus.dropEmpty r rest) i j k l := by
  have happend : Leads a b ([s] ++ r :: rest) i j k l := h
  exact happend.replace Leads.dropEmpty

theorem swap {s : Run} (hr : r.tag ≠ .keep) (hs : s.tag ≠ .keep) (hne : r.tag ≠ s.tag)
    (h : Leads a b (r :: s :: rest) i j k l) : Leads a b (s :: r :: rest) i j k l := by
  cases h with
  | keep => exact absurd rfl hr
  | delete h =>
      cases h with
      | keep => exact absurd rfl hs
      | delete => exact absurd rfl hne
      | insert h => exact .insert (.delete h)
  | insert h =>
      cases h with
      | keep => exact absurd rfl hs
      | delete h => exact .delete (.insert h)
      | insert => exact absurd rfl hne

/-- Runs with the same tag that follow upon each other are one. -/
theorem merge {s : Run} (htag : r.tag = s.tag) (h : Leads a b (r :: s :: rest) i j k l) :
    Leads a b (r.growRight s.len :: rest) i j k l := by
  cases h with
  | keep hsame h =>
      cases h with
      | keep hsame' h =>
          exact .keep (hsame.append hsame') (by rw [← Nat.add_assoc, ← Nat.add_assoc]; exact h)
      | delete => nomatch htag
      | insert => nomatch htag
  | delete h =>
      cases h with
      | keep => nomatch htag
      | delete h => exact .delete (by rw [← Nat.add_assoc]; exact h)
      | insert => nomatch htag
  | insert h =>
      cases h with
      | keep => nomatch htag
      | delete => nomatch htag
      | insert h => exact .insert (by rw [← Nat.add_assoc]; exact h)

/-- Lines that are the same may be kept in front of what follows. -/
theorem keep_before (hsame : Same a b p q m) (h : Leads a b rest (p + m) (q + m) k l) :
    Leads a b (keepBefore (p + m - m) (q + m - m) m rest) p q k l := by
  rw [Nat.add_sub_cancel, Nat.add_sub_cancel]
  unfold keepBefore
  split
  next old new len rest =>
    cases h with
    | keep hsame' h =>
        rw [Run.growLeft]
        dsimp only
        rw [Nat.add_sub_cancel, Nat.add_sub_cancel, Nat.add_comm len]
        refine .keep (hsame.append hsame') ?_
        rw [← Nat.add_assoc, ← Nat.add_assoc]
        exact h
  next => exact .keep hsame h

/-- Lines that are the same may be kept behind what comes first, which is held back to front. -/
theorem keep_behind {before : List Run} (hsame : Same a b p q m)
    (h : Leads a b before.reverse i j p q) :
    Leads a b (keepBehind p q m before).reverse i j (p + m) (q + m) := by
  unfold keepBehind
  split
  next old new len rest =>
    rw [List.reverse_cons] at h ⊢
    obtain ⟨p', q', hrest, hkeep⟩ := h.of_append
    refine hrest.append ?_
    cases hkeep with
    | keep hsame' h =>
        cases h with
        | done =>
            rw [Nat.add_assoc, Nat.add_assoc]
            exact .keep (hsame'.append hsame) .done
  next =>
    rw [List.reverse_cons]
    exact h.append (.keep hsame .done)

/-! ### Trading lines -/

theorem repeatsAbove_delete (kept : Run) (hr : r.tag = .delete) :
    Focus.repeatsAbove a b r kept = 0 := by
  have hle := (commonSuffix_le a b kept.oldSpan r.newSpan).2
  rw [Focus.repeatsAbove]
  simp only [Run.newSpan, if_pos hr, Span.len, Nat.sub_self] at hle ⊢
  exact Nat.eq_zero_of_le_zero hle

theorem repeatsBelow_delete (kept : Run) (hr : r.tag = .delete) :
    Focus.repeatsBelow a b r kept = 0 := by
  have hle := (commonPrefix_le a b kept.oldSpan r.newSpan).2
  rw [Focus.repeatsBelow]
  simp only [Run.newSpan, if_pos hr, Span.len, Nat.sub_self] at hle ⊢
  exact Nat.eq_zero_of_le_zero hle

/-- An edit gives its last lines for the same lines that are kept before it. -/
theorem trade_up {up : Run} (hup : up.tag = .keep) (hr : r.tag ≠ .keep)
    (hm : Focus.repeatsAbove a b r up = m) (hpos : 0 < m)
    (h : Leads a b (up :: r :: rest) i j k l) :
    ∃ p q, up.oldSpan.stop = p + m ∧ r.newSpan.stop = q + m ∧
      Leads a b [up.shrinkLeft m, r.shiftLeft m] i j p q ∧ Same a b p q m ∧
      Leads a b rest (p + m) (q + m) k l := by
  cases h with
  | delete => nomatch hup
  | insert => nomatch hup
  | @keep _ _ _ _ _ len hsame h =>
      cases h with
      | keep => exact absurd rfl hr
      | delete => exact absurd (hm.symm.trans (repeatsAbove_delete _ rfl)) (Nat.ne_of_gt hpos)
      | @insert _ _ i' _ _ _ len' h =>
          have hle := commonSuffix_le a b ⟨i, i + len⟩ ⟨j + len, j + len + len'⟩
          have htrade := @same_commonSuffix a b ⟨i, i + len⟩ ⟨j + len, j + len + len'⟩
            (Nat.le_add_right i len) (Nat.le_add_right _ len')
          change commonSuffix a b ⟨i, i + len⟩ ⟨j + len, j + len + len'⟩ = m at hm
          rw [hm] at hle htrade
          dsimp only [Span.len] at hle htrade
          have hold : i + (len - m) = i + len - m := by omega
          have hnew : j + (len - m) = j + len - m := by omega
          have hstop : j + len - m + len' = j + len + len' - m := by omega
          have hplace : i + len - m + m = i + len := by omega
          have hplace' : j + len + len' - m + m = j + len + len' := by omega
          refine ⟨i + len - m, j + len + len' - m, hplace.symm, hplace'.symm, ?_, htrade, ?_⟩
          · refine .keep (hsame.take (Nat.sub_le len m)) ?_
            rw [hold, hnew]
            refine .insert ?_
            rw [hstop]
            exact .done
          · rwa [hplace, hplace']

/-- An edit gives its first lines for the same lines that are kept behind it. -/
theorem trade_down {down : Run} (hdown : down.tag = .keep) (hr : r.tag ≠ .keep)
    (hm : Focus.repeatsBelow a b r down = m) (hpos : 0 < m)
    (h : Leads a b (r :: down :: rest) i j k l) :
    down.oldSpan.start = i ∧ r.newSpan.start = j ∧ Same a b i j m ∧
      Leads a b (r.shiftRight m :: down.shrinkRight m :: rest) (i + m) (j + m) k l := by
  cases h with
  | keep => exact absurd rfl hr
  | delete => exact absurd (hm.symm.trans (repeatsBelow_delete _ rfl)) (Nat.ne_of_gt hpos)
  | @insert _ _ i' _ _ _ len' h =>
      cases h with
      | delete => nomatch hdown
      | insert => nomatch hdown
      | @keep _ _ _ _ _ len hsame h =>
          have hle := commonPrefix_le a b ⟨i, i + len⟩ ⟨j, j + len'⟩
          have htrade := same_commonPrefix a b ⟨i, i + len⟩ ⟨j, j + len'⟩
          change commonPrefix a b ⟨i, i + len⟩ ⟨j, j + len'⟩ = m at hm
          rw [hm] at hle htrade
          dsimp only [Span.len] at hle htrade
          have hnew : j + m + len' = j + len' + m := by omega
          have hold' : i + m + (len - m) = i + len := by omega
          have hnew' : j + len' + m + (len - m) = j + len' + len := by omega
          refine ⟨rfl, rfl, htrade, .insert ?_⟩
          rw [hnew]
          refine .keep (hsame.drop m) ?_
          rwa [hold', hnew']

end Leads

/-! ### Moving a run -/

namespace Focus

/-- The whole script. -/
def script (f : Focus) : List Run := f.before.reverse ++ f.here :: f.after

theorem script_cons (up here : Run) (before after : List Run) :
    script ⟨up :: before, here, after⟩ = before.reverse ++ up :: here :: after := by
  rw [script, List.reverse_cons, List.append_assoc, List.singleton_append]

theorem script_dropEmpty (up here : Run) (before after : List Run) :
    script ⟨dropEmpty up before, here, after⟩ = before.reverse ++ dropEmpty up (here :: after) := by
  rw [dropEmpty, dropEmpty]
  split
  next => rfl
  next => exact script_cons up here before after

/-- A run that is moved keeps its tag, and the script stays valid. -/
theorem leads_moveUp {f : Focus} (hf : f.here.tag ≠ .keep) (h : Leads a b f.script i j k l) :
    Leads a b (moveUp a b n f).script i j k l ∧ (moveUp a b n f).here.tag = f.here.tag := by
  induction n generalizing f with
  | zero => exact ⟨h, rfl⟩
  | succ n ih =>
      obtain ⟨before, here, after⟩ := f
      rw [moveUp]
      cases before with
      | nil => exact ⟨h, rfl⟩
      | cons up before =>
          have hcons := h
          rw [script_cons] at hcons
          dsimp only
          split
          next hup =>
            split
            next hpos =>
              refine ih (f := ⟨_, here.shiftLeft _, _⟩) hf ?_
              rw [script_dropEmpty]
              refine hcons.replace fun h => ?_
              obtain ⟨p, q, hold, hnew, htraded, hsame, hrest⟩ := Leads.trade_up hup hf rfl hpos h
              rw [hold, hnew]
              exact Leads.dropEmpty (htraded.append (Leads.keep_before hsame hrest))
            next =>
              split
              next hempty =>
                refine ih (f := ⟨_, here, _⟩) hf (hcons.replace fun h => ?_)
                have hdrop := h.dropEmpty
                rwa [dropEmpty, if_pos hempty] at hdrop
              next => exact ⟨h, rfl⟩
          next tag hup =>
            split
            next htag =>
              have hmoved := ih (f := ⟨before, up.growRight here.len, after⟩) hup
                (hcons.replace fun h => h.merge htag)
              exact ⟨hmoved.1, hmoved.2.trans htag⟩
            next htag =>
              exact ih (f := ⟨before, here, up :: after⟩) hf
                (hcons.replace fun h => h.swap hup hf htag)

theorem leads_moveDown {f : Focus} (hf : f.here.tag ≠ .keep) (h : Leads a b f.script i j k l) :
    Leads a b (moveDown a b n f).script i j k l ∧ (moveDown a b n f).here.tag = f.here.tag := by
  induction n generalizing f with
  | zero => exact ⟨h, rfl⟩
  | succ n ih =>
      obtain ⟨before, here, after⟩ := f
      rw [moveDown]
      cases after with
      | nil => exact ⟨h, rfl⟩
      | cons down after =>
          have hcons : Leads a b (before.reverse ++ here :: down :: after) i j k l := h
          dsimp only
          split
          next hdown =>
            split
            next hpos =>
              refine ih (f := ⟨_, here.shiftRight _, _⟩) hf ?_
              obtain ⟨p, q, hbefore, hrest⟩ := hcons.of_append
              obtain ⟨hold, hnew, hsame, htraded⟩ := Leads.trade_down hdown hf rfl hpos hrest
              rw [script, hold, hnew]
              exact (Leads.keep_behind hsame hbefore).append htraded.dropEmpty_second
            next =>
              split
              next hempty =>
                refine ih (f := ⟨before, here, after⟩) hf (hcons.replace fun h => ?_)
                have hdrop := h.dropEmpty_second
                rwa [dropEmpty, if_pos hempty] at hdrop
              next => exact ⟨h, rfl⟩
          next tag hdown =>
            split
            next htag =>
              exact ih (f := ⟨before, here.growRight down.len, after⟩) hf
                (hcons.replace fun h => h.merge htag.symm)
            next htag =>
              refine ih (f := ⟨down :: before, here, after⟩) hf ?_
              rw [script_cons]
              exact hcons.replace fun h => h.swap hf hdown (Ne.symm htag)

end Focus

theorem leads_settle {tag : Tag} (htag : tag ≠ .keep) {before after : List Run}
    (h : Leads a b (before.reverse ++ after) i j k l) :
    Leads a b (settle a b tag n before after) i j k l := by
  induction n generalizing before after with
  | zero => exact h
  | succ n ih =>
      cases after with
      | nil => rwa [List.append_nil] at h
      | cons r after =>
          rw [settle]
          split
          next hr =>
            have hkeep : r.tag ≠ .keep := hr ▸ htag
            dsimp only
            generalize 2 * (weight before + weight (r :: after) + 1) = bound
            obtain ⟨hup, htagUp⟩ := @Focus.leads_moveUp a b i j k l bound ⟨before, r, after⟩ hkeep h
            obtain ⟨hdown, -⟩ := @Focus.leads_moveDown a b i j k l bound _ (htagUp ▸ hkeep) hup
            refine ih ?_
            rw [List.reverse_cons, List.append_assoc]
            exact hdown
          next =>
            refine ih ?_
            rwa [List.reverse_cons, List.append_assoc]

/-! ### Merging -/

namespace Merge

/-- The runs that were merged so far. -/
def script (m : Merge) : List Run :=
  m.done.reverse ++ (m.kept.toList ++ (m.deleted.toList ++ m.inserted.toList))

/-- What is being merged has the tag it is kept under, and no line is kept together with edits. -/
structure Sound (m : Merge) : Prop where
  kept : ∀ r ∈ m.kept, r.tag = .keep
  deleted : ∀ r ∈ m.deleted, r.tag = .delete
  inserted : ∀ r ∈ m.inserted, r.tag = .insert
  apart : m.kept = none ∨ m.deleted = none ∧ m.inserted = none

variable {m : Merge}

theorem add_keep (m : Merge) (hr : r.tag = .keep) :
    m.add r = ⟨extend m.kept r, none, none, m.inserted.toList ++ m.deleted.toList ++ m.done⟩ := by
  rw [add, hr]
  rfl

theorem add_delete (m : Merge) (hr : r.tag = .delete) :
    m.add r = ⟨none, extend m.deleted r, m.inserted, m.kept.toList ++ m.done⟩ := by
  rw [add, hr]
  rfl

theorem add_insert (m : Merge) (hr : r.tag = .insert) :
    m.add r = ⟨none, m.deleted, extend m.inserted r, m.kept.toList ++ m.done⟩ := by
  rw [add, hr]
  rfl

theorem tag_extend {old : Option Run} {tag : Tag} (hold : ∀ o ∈ old, o.tag = tag)
    (hr : r.tag = tag) : ∀ o ∈ extend old r, o.tag = tag := by
  cases old with
  | none => exact fun o ho => Option.some.inj ho ▸ hr
  | some o => exact fun o' ho => Option.some.inj ho ▸ hold o rfl

theorem Sound.add (hm : m.Sound) (r : Run) : (m.add r).Sound := by
  cases hr : r.tag with
  | keep =>
      rw [add_keep m hr]
      exact ⟨tag_extend hm.kept hr, nofun, nofun, .inr ⟨rfl, rfl⟩⟩
  | delete =>
      rw [add_delete m hr]
      exact ⟨nofun, tag_extend hm.deleted hr, hm.inserted, .inl rfl⟩
  | insert =>
      rw [add_insert m hr]
      exact ⟨nofun, hm.deleted, tag_extend hm.inserted hr, .inl rfl⟩

theorem leads_extend {old : Option Run} (hold : ∀ o ∈ old, o.tag = r.tag)
    (h : Leads a b (old.toList ++ r :: rest) i j k l) :
    Leads a b ((extend old r).toList ++ rest) i j k l := by
  cases old with
  | none => exact h
  | some o => exact h.merge (hold o rfl)

/-- A deletion may come before the insertion that it follows. -/
theorem leads_deletion {inserted : Option Run} (hr : r.tag = .delete)
    (hinserted : ∀ s ∈ inserted, s.tag = .insert)
    (h : Leads a b (inserted.toList ++ r :: rest) i j k l) :
    Leads a b (r :: (inserted.toList ++ rest)) i j k l := by
  cases inserted with
  | none => exact h
  | some s =>
      have hs := hinserted s rfl
      refine Leads.swap ?_ ?_ ?_ h
      · exact hs ▸ Tag.noConfusion
      · exact hr ▸ Tag.noConfusion
      · exact hs ▸ hr ▸ Tag.noConfusion

theorem reverse_toList (o : Option Run) : o.toList.reverse = o.toList := by
  cases o <;> rfl

theorem leads_add (hm : m.Sound) (h : Leads a b (m.script ++ r :: rest) i j k l) :
    Leads a b ((m.add r).script ++ rest) i j k l := by
  obtain ⟨hkept, hdeleted, hinserted, hapart⟩ := hm
  simp only [script, List.append_assoc] at h
  cases hr : r.tag with
  | keep =>
      rw [add_keep m hr]
      simp only [script, List.append_assoc, List.reverse_append, reverse_toList, Option.toList_none,
        List.nil_append]
      rcases hapart with hnone | ⟨hnone, hnone'⟩
      · rw [hnone] at h ⊢
        exact h
      · rw [hnone, hnone'] at h ⊢
        exact h.replace fun h => leads_extend (hr ▸ hkept) h
  | delete =>
      rw [add_delete m hr]
      simp only [script, List.append_assoc, List.reverse_append, reverse_toList]
      refine h.replace fun h => h.replace fun h => leads_extend (hr ▸ hdeleted) ?_
      exact h.replace (leads_deletion hr hinserted)
  | insert =>
      rw [add_insert m hr]
      simp only [script, List.append_assoc, List.reverse_append, reverse_toList]
      exact h.replace fun h => h.replace fun h => h.replace fun h =>
        leads_extend (hr ▸ hinserted) h

theorem leads_foldl_add (hm : m.Sound) (h : Leads a b (m.script ++ runs) i j k l) :
    Leads a b (runs.foldl Merge.add m).script i j k l := by
  induction runs generalizing m with
  | nil => rwa [List.append_nil] at h
  | cons r runs ih => exact ih (hm.add r) (leads_add hm h)

theorem finish_eq (m : Merge) : m.finish = m.script := by
  simp only [finish, flushKept, flushEdits, script, List.reverse_append, reverse_toList,
    List.append_assoc]

end Merge

/-- The compact script leads from the first lines to behind the last. -/
theorem leads_script (a b : Array String) : Leads a b (script a b) 0 0 a.size b.size := by
  have hsettle (tag : Tag) (htag : tag ≠ .keep) {runs : List Run} (n : Nat)
      (h : Leads a b runs 0 0 a.size b.size) :
      Leads a b (settle a b tag n [] runs) 0 0 a.size b.size :=
    leads_settle htag (show Leads a b ([].reverse ++ runs) 0 0 a.size b.size from h)
  have hraw := leads_rawScript a b
  have hstart : Merge.start.Sound := ⟨nofun, nofun, nofun, .inl rfl⟩
  rw [script, Merge.finish_eq]
  exact Merge.leads_foldl_add hstart
    (hsettle .insert (by decide) _ (hsettle .delete (by decide) _ hraw))

end Blueprint.Diff
