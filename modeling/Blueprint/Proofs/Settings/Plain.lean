import Blueprint.Proofs.Settings.Choices

/-!
# Plain tables

A table of settings is plain when its sections are tables and the settings in them are scalars that
are taken. A plain table decodes to what its choices come to. Of two plain tables, one laid over the
other is plain again, and chooses what the upper one chooses and else what the lower one does.

The three sections are parts of the whole in the same way, so all this is shown for a part and then
put together. A file whose sections are tables of scalars holds a plain table if it is accepted.
-/

namespace Blueprint

open Toml

namespace Settings

section Section

variable {α β : Type} {s : Section α} {title key : String} {get : α → β}
  {choose : Scalar → Option β} {gs ms base : List (String × Value)} {d : α × List Key}

/-- The members of a section, where every setting is a scalar that the section takes. -/
structure Section.Plain (s : Section α) (gs : List (String × Value)) : Prop where
  sorted : Sorted gs
  taken : ∀ {key v}, key ∈ s.keys → lookup key gs = some v →
    ∃ x, v = .scalar x ∧ ∀ a, ∃ d, s.take key (.scalar x none) a = .ok d

/-- A table in which a section is missing or plain. -/
def Section.PlainAt (s : Section α) (title : String) (ms : List (String × Value)) : Prop :=
  ∀ v, lookup title ms = some v → ∃ gs, v = .table gs ∧ s.Plain gs

theorem Section.Chooses.mem_keys (h : s.Chooses key get choose) : key ∈ s.keys := by
  obtain ⟨read, hreads, -⟩ := h
  exact hreads.mem_keys

theorem Section.Chooses.isSome (h : s.Chooses key get choose) {x : Scalar} {span : Option Span}
    {a : α} (hok : s.take key (.scalar x span) a = .ok d) : (choose x).isSome := by
  obtain ⟨read, hreads, hread⟩ := h
  rw [← hread x span, hreads.read_eq_some hok]
  rfl

/-! ### Sections -/

namespace Section.Plain

theorem lookup_merge (h : s.Plain gs) (hkey : key ∈ s.keys) :
    lookup key (merge base gs) = (lookup key gs).or (lookup key base) := by
  rw [Toml.lookup_merge h.sorted]
  cases hv : lookup key gs with
  | none => rfl
  | some v =>
      obtain ⟨x, rfl, -⟩ := h.taken hkey hv
      rw [Option.map_some, overlay_scalar]

theorem merge (hbase : s.Plain base) (h : s.Plain gs) : s.Plain (merge base gs) where
  sorted := hbase.sorted.merge gs
  taken hkey hv := by
    rw [h.lookup_merge hkey, Option.or_eq_some_iff] at hv
    rcases hv with hv | ⟨-, hv⟩
    · exact h.taken hkey hv
    · exact hbase.taken hkey hv

theorem exists_decode (h : s.Plain gs) (r : Reading) :
    ∃ d, decodeSection r s (Item.ofValue (.table gs)) = .ok d := by
  rw [Item.ofValue]
  refine exists_takeMembers (fun m hm hkey a => ?_) _
  obtain ⟨v, hv, hitem⟩ := Item.exists_lookup_of_mem_ofMembers h.sorted hm
  obtain ⟨x, rfl, htake⟩ := h.taken hkey hv
  rw [hitem, Item.ofValue]
  exact htake a

theorem get_of_decode (h : s.Plain gs) (hc : s.Chooses key get choose) {r : Reading}
    (hok : decodeSection r s (Item.ofValue (.table gs)) = .ok d) :
    get d.1 = (((lookup key gs).bind Value.scalar?).bind choose).getD (get s.standard) := by
  obtain ⟨read, hreads, hread⟩ := id hc
  rw [Item.ofValue] at hok
  rw [hreads.get_takeMembers (Item.map_name_ofMembers gs ▸ h.sorted.nodup_keys) hok,
    Item.findMember_ofMembers]
  cases hv : lookup key gs with
  | none => rfl
  | some v =>
      obtain ⟨x, rfl, -⟩ := h.taken hc.mem_keys hv
      rw [Option.map_some, Item.ofValue, Option.bind_some, hread]
      rfl

end Section.Plain

/-- What a section takes from a file, it takes as a value too if it is read off scalars. -/
theorem Section.plain_members {s' : Section α} {file : Members} {a : α}
    (hok : takeMembers s file a = .ok d)
    (hscalars : ∀ key ∈ s.keys, ∀ item ∈ findMember key file, item.scalar?.isSome = true)
    (hkeys : s'.keys = s.keys)
    (hchooses : ∀ key ∈ s.keys, ∃ (γ : Type) (get : α → γ) (choose : Scalar → Option γ),
      s.Chooses key get choose ∧ s'.Chooses key get choose) :
    s'.Plain (Item.members file) := by
  refine ⟨Item.sorted_members file, fun {key v} hkey hv => ?_⟩
  rw [hkeys] at hkey
  rw [Item.lookup_members, Option.map_eq_some_iff] at hv
  obtain ⟨item, hitem, rfl⟩ := hv
  obtain ⟨x, hx⟩ := Option.isSome_iff_exists.mp (hscalars key hkey item hitem)
  obtain ⟨span, rfl⟩ := Item.exists_eq_scalar hx
  obtain ⟨b, d', htake⟩ := exists_take_of_takeMembers hok hkey hitem
  obtain ⟨γ, get, choose, hc, hc'⟩ := hchooses key hkey
  exact ⟨x, by rw [Item.value], hc.take hc' htake⟩

namespace Section.PlainAt

/-- What stands at a section after a table is laid over another. -/
theorem lookup_merge (hbase : s.PlainAt title base) (hsorted : Sorted ms) (h : s.PlainAt title ms) :
    (lookup title ms = none ∧ lookup title (merge base ms) = lookup title base) ∨
    ∃ gs, lookup title ms = some (.table gs) ∧ s.Plain gs ∧
      ((lookup title base = none ∧ lookup title (merge base ms) = some (.table gs)) ∨
      ∃ bs, lookup title base = some (.table bs) ∧ s.Plain bs ∧
        lookup title (merge base ms) = some (.table (merge bs gs))) := by
  have hmerge : lookup title (Toml.merge base ms) = _ := Toml.lookup_merge hsorted
  cases hv : lookup title ms with
  | none =>
      rw [hv] at hmerge
      exact .inl ⟨rfl, hmerge⟩
  | some v =>
      obtain ⟨gs, rfl, hgs⟩ := h v hv
      rw [hv, Option.map_some, Option.some_or] at hmerge
      refine .inr ⟨gs, rfl, hgs, ?_⟩
      cases hw : lookup title base with
      | none =>
          rw [hw, overlay_none_table] at hmerge
          exact .inl ⟨rfl, hmerge⟩
      | some w =>
          obtain ⟨bs, rfl, hbs⟩ := hbase w hw
          rw [hw, overlay_table] at hmerge
          exact .inr ⟨bs, rfl, hbs, hmerge⟩

theorem merge (hbase : s.PlainAt title base) (hsorted : Sorted ms) (h : s.PlainAt title ms) :
    s.PlainAt title (merge base ms) := by
  intro v hv
  rcases hbase.lookup_merge hsorted h with
    ⟨-, hmerge⟩ | ⟨gs, -, hgs, ⟨-, hmerge⟩ | ⟨bs, -, hbs, hmerge⟩⟩
  · exact hbase v (hmerge ▸ hv)
  · rw [hmerge] at hv
    exact ⟨gs, (Option.some.inj hv).symm, hgs⟩
  · rw [hmerge] at hv
    exact ⟨_, (Option.some.inj hv).symm, hbs.merge hgs⟩

theorem isSome_choose (h : s.PlainAt title ms) (hc : s.Chooses key get choose) {x : Scalar}
    (hx : scalarAt title key ms = some x) : (choose x).isSome := by
  obtain ⟨gs, hgs, hx⟩ := Option.bind_eq_some_iff.mp hx
  obtain ⟨v, hv, hv'⟩ := Option.bind_eq_some_iff.mp hgs
  obtain ⟨gs', rfl, hplain⟩ := h v hv
  obtain rfl := Option.some.inj hv'
  obtain ⟨w, hw, hx⟩ := Option.bind_eq_some_iff.mp hx
  obtain ⟨y, rfl, htake⟩ := hplain.taken hc.mem_keys hw
  obtain rfl := Option.some.inj hx
  obtain ⟨d, hok⟩ := htake s.standard
  exact hc.isSome hok

theorem scalarAt_merge (hbase : s.PlainAt title base) (hsorted : Sorted ms)
    (h : s.PlainAt title ms) (hkey : key ∈ s.keys) :
    scalarAt title key (Toml.merge base ms) =
      (scalarAt title key ms).or (scalarAt title key base) := by
  rcases hbase.lookup_merge hsorted h with
    ⟨hms, hmerge⟩ | ⟨gs, hms, hgs, ⟨hnone, hmerge⟩ | ⟨bs, hsome, hbs, hmerge⟩⟩
  · rw [scalarAt_of_none hms, scalarAt, hmerge, Option.none_or, scalarAt]
  · rw [scalarAt_of_table hmerge, scalarAt_of_table hms, scalarAt_of_none hnone, Option.or_none]
  · rw [scalarAt_of_table hmerge, scalarAt_of_table hms, scalarAt_of_table hsome,
      hgs.lookup_merge hkey]
    cases hv : lookup key gs with
    | none => rfl
    | some v =>
        obtain ⟨x, rfl, -⟩ := hgs.taken hkey hv
        rfl

/-- The upper table chooses, or else the lower one does. -/
theorem choose_merge (hbase : s.PlainAt title base) (hsorted : Sorted ms)
    (h : s.PlainAt title ms) (hc : s.Chooses key get choose) :
    (scalarAt title key (Toml.merge base ms)).bind choose =
      ((scalarAt title key ms).bind choose).or ((scalarAt title key base).bind choose) := by
  rw [hbase.scalarAt_merge hsorted h hc.mem_keys]
  cases hx : scalarAt title key ms with
  | none => rfl
  | some x =>
      -- What the upper table holds is taken, so it never falls through to the lower one.
      obtain ⟨b, hb⟩ := Option.isSome_iff_exists.mp (h.isSome_choose hc hx)
      rw [Option.some_or, Option.bind_some, hb, Option.some_or]

end Section.PlainAt

end Section

/-! ### Parts of the whole -/

/-- A section that is read where the whole has its title, and of which every setting is read off a
scalar in both readings. -/
structure IsPart {α : Type} (sec : Reading → Section α) (title : String) (part : Settings → α) :
    Prop where
  reads : ∀ r, (wholeSection r).Reads title part fun item =>
    (decodeSection r (sec r) item).toOption.map Prod.fst
  standard : ∀ r, part Settings.standard = (sec r).standard
  keys : ∀ r r', (sec r).keys = (sec r').keys
  chooses : ∀ key ∈ (sec .file).keys, ∃ (β : Type) (get : α → β) (choose : Scalar → Option β),
    ∀ r, (sec r).Chooses key get choose

namespace IsPart

variable {α β : Type} {sec : Reading → Section α} {title key : String} {part : Settings → α}
  {get : α → β} {choose : Scalar → Option β} {ms : List (String × Value)} {r : Reading}
  {d : Settings × List Key}

theorem exists_take (hp : IsPart sec title part) (h : (sec r).PlainAt title ms) {v : Value}
    (hv : lookup title ms = some v) (c : Settings) :
    ∃ d, (wholeSection r).take title (Item.ofValue v) c = .ok d := by
  obtain ⟨gs, rfl, hgs⟩ := h v hv
  obtain ⟨d, hok⟩ := hgs.exists_decode r
  refine (hp.reads r).exists_take ?_ c
  rw [hok]
  rfl

theorem get_of_decode (hp : IsPart sec title part) (hc : (sec r).Chooses key get choose)
    (hsorted : Sorted ms) (h : (sec r).PlainAt title ms)
    (hok : decode r (Item.ofValue (.table ms)) = .ok d) :
    get (part d.1) =
      ((scalarAt title key ms).bind choose).getD (get (part Settings.standard)) := by
  rw [decode, Item.ofValue] at hok
  rw [(hp.reads r).get_takeMembers (Item.map_name_ofMembers ms ▸ hsorted.nodup_keys) hok,
    Item.findMember_ofMembers]
  cases hv : lookup title ms with
  | none =>
      rw [scalarAt_of_none hv]
      rfl
  | some v =>
      obtain ⟨gs, rfl, hgs⟩ := h v hv
      obtain ⟨d', hd⟩ := hgs.exists_decode r
      rw [scalarAt_of_table hv, Option.map_some, Option.bind_some, hd, hp.standard r]
      exact hgs.get_of_decode hc hd

/-- A section of a file that is accepted is plain if it is a table of scalars. -/
theorem plainAt_members (hp : IsPart sec title part) {root : Members} {kind : TableKind}
    {span : Option Span} {c : Settings} (hok : takeMembers (wholeSection .file) root c = .ok d)
    (htab : TabularAt (.table kind root span) title (sec .file).keys) :
    (sec r).PlainAt title (Item.members root) := by
  intro v hv
  rw [Item.lookup_members, Option.map_eq_some_iff] at hv
  obtain ⟨item, hitem, rfl⟩ := hv
  obtain ⟨htable, hscalars⟩ := htab item hitem
  obtain ⟨kind', file, span', rfl⟩ := Item.exists_eq_table htable
  obtain ⟨c', d', htake⟩ := exists_take_of_takeMembers hok (hp.reads .file).mem_keys hitem
  obtain ⟨e, hdecode⟩ : ∃ e, decodeSection .file (sec .file) (.table kind' file span') = .ok e := by
    have hread := (hp.reads .file).read_eq_some htake
    cases he : decodeSection .file (sec .file) (.table kind' file span') with
    | error e =>
        rw [he] at hread
        cases hread
    | ok e => exact ⟨e, rfl⟩
  refine ⟨Item.members file, by rw [Item.value], ?_⟩
  refine Section.plain_members hdecode hscalars (hp.keys r .file) fun key hkey => ?_
  obtain ⟨γ, get, choose, hc⟩ := hp.chooses key hkey
  exact ⟨γ, get, choose, hc .file, hc r⟩

end IsPart

section Whole

variable {r : Reading} {key : String} {item : Item} {c : Settings} {d : Settings × List Key}

theorem eq_of_map_fst {α : Type} {D : Decoded α} {f : α → Settings}
    (h : (D.map fun (a, ks) => (f a, ks)) = .ok d) : ∃ a, d.1 = f a := by
  cases D with
  | error e => cases h
  | ok a => exact ⟨a.1, congrArg Prod.fst (Except.ok.inj h).symm⟩

theorem reads_of_take {α : Type} {sec : Section α} {title : String} {part : Settings → α}
    {f : Settings → α → Settings} (hmem : title ∈ (wholeSection r).keys)
    (htake : ∀ item c, (wholeSection r).take title item c =
      (decodeSection r sec item).map fun (a, ks) => (f c a, ks))
    (hpart : ∀ c a, part (f c a) = a)
    (hother : ∀ {other item c d}, other ∈ (wholeSection r).keys → other ≠ title →
      (wholeSection r).take other item c = .ok d → part d.1 = part c) :
    (wholeSection r).Reads title part fun item =>
      (decodeSection r sec item).toOption.map Prod.fst := by
  refine ⟨hmem, fun item c => ?_, hother⟩
  rw [htake]
  cases decodeSection r sec item with
  | error e => rfl
  | ok a => exact congrArg some (hpart c a.1)

/-- Each section of the whole sets its own part. -/
theorem take_wholeSection (hmem : key ∈ (wholeSection r).keys)
    (hok : (wholeSection r).take key item c = .ok d) :
    (key = "generate" ∧ ∃ g, d.1 = { c with generate := g }) ∨
    (key = "store" ∧ ∃ t, d.1 = { c with store := t }) ∨
    (key = "output" ∧ ∃ o, d.1 = { c with output := o }) := by
  simp only [wholeSection, List.mem_cons, List.not_mem_nil, or_false] at hmem
  rcases hmem with rfl | rfl | rfl
  · exact .inl ⟨rfl, eq_of_map_fst hok⟩
  · exact .inr (.inl ⟨rfl, eq_of_map_fst hok⟩)
  · exact .inr (.inr ⟨rfl, eq_of_map_fst hok⟩)

end Whole

theorem isPart_generate : IsPart generateSection "generate" Settings.generate where
  reads r := reads_of_take (f := fun c g => { c with generate := g }) (by simp [wholeSection])
    (fun _ _ => rfl) (fun _ _ => rfl) fun hmem hne hok => by grind [take_wholeSection hmem hok]
  standard _ := rfl
  keys _ _ := rfl
  chooses key hkey := by
    simp only [generateSection, List.mem_cons, List.not_mem_nil, or_false] at hkey
    rcases hkey with rfl | rfl | rfl | rfl
    · exact ⟨_, _, _, fun _ => chooses_outDir⟩
    · exact ⟨_, _, _, fun _ => chooses_failOn⟩
    · exact ⟨_, _, _, fun _ => chooses_skipUnchanged⟩
    · exact ⟨_, _, _, fun _ => chooses_language⟩

theorem isPart_store : IsPart (fun _ => storeSection) "store" Settings.store where
  reads r := reads_of_take (f := fun c t => { c with store := t }) (by simp [wholeSection])
    (fun _ _ => rfl) (fun _ _ => rfl) fun hmem hne hok => by grind [take_wholeSection hmem hok]
  standard _ := rfl
  keys _ _ := rfl
  chooses key hkey := by
    obtain rfl := List.mem_singleton.mp hkey
    exact ⟨_, _, _, fun _ => chooses_dir⟩

theorem isPart_output : IsPart outputSection "output" Settings.output where
  reads r := reads_of_take (f := fun c o => { c with output := o }) (by simp [wholeSection])
    (fun _ _ => rfl) (fun _ _ => rfl) fun hmem hne hok => by grind [take_wholeSection hmem hok]
  standard _ := rfl
  keys _ _ := rfl
  chooses key hkey := by
    simp only [outputSection, List.mem_cons, List.not_mem_nil, or_false] at hkey
    rcases hkey with rfl | rfl | rfl
    · exact ⟨_, _, _, fun _ => chooses_verbosity⟩
    · exact ⟨_, _, _, fun _ => chooses_color⟩
    · exact ⟨_, _, _, fun _ => chooses_unicode⟩

/-! ### The whole -/

/-- A table of settings of which every section is missing or plain. -/
structure Plain (ms : List (String × Value)) : Prop where
  sorted : Sorted ms
  generate : (generateSection .merged).PlainAt "generate" ms
  store : storeSection.PlainAt "store" ms
  output : (outputSection .merged).PlainAt "output" ms

namespace Plain

variable {ms base : List (String × Value)}

theorem nil : Plain [] where
  sorted := sorted_nil
  generate _ hv := nomatch hv
  store _ hv := nomatch hv
  output _ hv := nomatch hv

theorem merge (hbase : Plain base) (h : Plain ms) : Plain (merge base ms) where
  sorted := hbase.sorted.merge ms
  generate := hbase.generate.merge h.sorted h.generate
  store := hbase.store.merge h.sorted h.store
  output := hbase.output.merge h.sorted h.output

/-- The table on top chooses, and where it does not, the one below. -/
theorem ofMembers_merge (hbase : Plain base) (h : Plain ms) :
    Choices.ofMembers (Toml.merge base ms) =
      (Choices.ofMembers ms).above (Choices.ofMembers base) := by
  have hdir := hbase.store.choose_merge h.sorted h.store chooses_dir
  simp only [← Option.map_bind, ← Option.map_or] at hdir
  simp only [Choices.ofMembers, Choices.read, Choices.above, Choices.mk.injEq]
  exact ⟨hbase.generate.choose_merge h.sorted h.generate chooses_outDir,
    hbase.generate.choose_merge h.sorted h.generate chooses_failOn,
    hbase.generate.choose_merge h.sorted h.generate chooses_skipUnchanged,
    hbase.generate.choose_merge h.sorted h.generate chooses_language,
    Option.map_injective (fun _ _ => Option.some.inj) hdir,
    hbase.output.choose_merge h.sorted h.output chooses_verbosity,
    hbase.output.choose_merge h.sorted h.output chooses_color,
    hbase.output.choose_merge h.sorted h.output chooses_unicode⟩

theorem exists_decode (h : Plain ms) :
    ∃ d, decode .merged (Item.ofValue (.table ms)) = .ok d := by
  rw [Item.ofValue]
  refine exists_takeMembers (fun m hm hkey c => ?_) _
  obtain ⟨v, hv, hitem⟩ := Item.exists_lookup_of_mem_ofMembers h.sorted hm
  simp only [wholeSection, List.mem_cons, List.not_mem_nil, or_false] at hkey
  rw [hitem]
  rcases hkey with hkey | hkey | hkey <;> rw [hkey] at hv ⊢
  · exact isPart_generate.exists_take h.generate hv c
  · exact isPart_store.exists_take h.store hv c
  · exact isPart_output.exists_take h.output hv c

/-- A plain table decodes to what its choices come to. -/
theorem decode_eq (h : Plain ms) {d : Settings × List Key}
    (hok : decode .merged (Item.ofValue (.table ms)) = .ok d) :
    d.1 = (Choices.ofMembers ms).settle := by
  have houtDir := isPart_generate.get_of_decode chooses_outDir h.sorted h.generate hok
  have hfailOn := isPart_generate.get_of_decode chooses_failOn h.sorted h.generate hok
  have hskip := isPart_generate.get_of_decode chooses_skipUnchanged h.sorted h.generate hok
  have hlanguage := isPart_generate.get_of_decode chooses_language h.sorted h.generate hok
  have hdir := isPart_store.get_of_decode chooses_dir h.sorted h.store hok
  have hverbosity := isPart_output.get_of_decode chooses_verbosity h.sorted h.output hok
  have hcolor := isPart_output.get_of_decode chooses_color h.sorted h.output hok
  have hunicode := isPart_output.get_of_decode chooses_unicode h.sorted h.output hok
  obtain ⟨⟨⟨_, _, _, _⟩, ⟨dir⟩, ⟨_, _, _⟩⟩, unknown⟩ := d
  -- The directory of the store may be left open even by the defaults, so it is chosen as an option.
  have hdir' : dir = ((scalarAt "store" "dir" ms).bind Choices.ofPath).or none := by
    refine hdir.trans ?_
    rw [← Option.map_bind]
    cases (scalarAt "store" "dir" ms).bind Choices.ofPath <;> rfl
  dsimp only at *
  subst houtDir hfailOn hskip hlanguage hdir' hverbosity hcolor hunicode
  rfl

/-- A file that is accepted holds a plain table if its sections are tables of scalars. -/
theorem of_file {root : Item} (htab : Tabular root) {d : Settings × List Key}
    (hok : decode .file root = .ok d) : Plain root.valueMembers := by
  cases root with
  | table kind file span =>
      obtain ⟨hgenerate, hstore, houtput⟩ := htab
      exact ⟨Item.sorted_members file, isPart_generate.plainAt_members hok hgenerate,
        isPart_store.plainAt_members (r := .merged) hok hstore,
        isPart_output.plainAt_members hok houtput⟩
  | _ => exact nil

end Plain

end Settings

end Blueprint
