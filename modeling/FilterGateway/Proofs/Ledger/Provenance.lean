import FilterGateway.Proofs.Ledger.Entries

/-!
# Provenance of published filters

A call makes its filters after all earlier calls have made theirs. So the entries of a ledger about
one filter all stem from one call, and a chain that a load publishes holds only filters that this
very load has made, bound and initialized, one for each descriptor that it keeps.
-/

namespace FilterGateway

variable {σ C : Type}

private theorem exists_of_mem_sublistForall₂ {α β : Type} {R : α → β → Prop} {xs : List α}
    {ys : List β} (h : List.SublistForall₂ R xs ys) {x : α} (hx : x ∈ xs) : ∃ y, R x y := by
  induction h with
  | nil => exact absurd hx List.not_mem_nil
  | cons hxy _ ih =>
    rcases List.mem_cons.mp hx with rfl | hx
    · exact ⟨_, hxy⟩
    · exact ih hx
  | cons_right _ ih => exact ih hx

def Chain.ids (c : Chain C) : List Nat :=
  c.filters.map (·.filter.id)

/-- The numbers of the filters of all chains that were published. -/
def publishedIds (moments : List (Moment σ C)) : List Nat :=
  (moments.filterMap Moment.published?).flatMap Chain.ids

theorem publishedIds_cons (m : Moment σ C) (moments : List (Moment σ C)) :
    publishedIds (m :: moments) =
      m.published?.toList.flatMap Chain.ids ++ publishedIds moments := by
  cases h : m.published? <;> simp [publishedIds, h]

theorem mem_publishedIds {moments : List (Moment σ C)} {m : Moment σ C} {chain : Chain C}
    {f : LoadedFilter C} (hm : m ∈ moments) (hchain : m.published? = some chain)
    (hf : f ∈ chain.filters) : f.filter.id ∈ publishedIds moments :=
  List.mem_flatMap.mpr ⟨chain, List.mem_filterMap.mpr ⟨m, hm, hchain⟩, List.mem_map_of_mem hf⟩

def Moment.entries (m : Moment (Ledger σ C) (Numbered C)) : List (LedgerEntry C) :=
  m.after.world.plugins.entries.drop m.before.world.plugins.entries.length

theorem Moment.entries_of_extends {m : Moment (Ledger σ C) (Numbered C)}
    {new : List (LedgerEntry C)} (h : m.before.world.Extends m.after.world new) :
    m.entries = new := by
  simp [entries, h.entries]

/-- What a call has to do with the ledger: its entries are about filters that it has made, and a
chain that it publishes consists of such filters, one for each descriptor that is kept. -/
structure Moment.Accounted (m : Moment (Ledger σ C) (Numbered C)) : Prop where
  grows : m.before.world.Extends m.after.world m.entries
  published : ∀ chain, m.published? = some chain →
    ∃ ds, m.operation = .load ds ∧
      List.SublistForall₂ (fun f d => m.before.manager.registry.Made d f m.entries)
        chain.filters ds ∧
      chain.ids.Pairwise (· < ·) ∧
      ∀ id ∈ chain.ids, m.before.world.created < id ∧ id ≤ m.after.world.created

theorem Moment.Accounted.of_unpublished {m : Moment (Ledger σ C) (Numbered C)}
    {new : List (LedgerEntry C)} (h : m.before.world.Extends m.after.world new)
    (hnone : m.published? = none) : m.Accounted := by
  refine ⟨Moment.entries_of_extends h ▸ h, ?_⟩
  intro chain hchain
  rw [hnone] at hchain
  exact absurd hchain (Option.some_ne_none chain).symm

/-- What a history between two worlds has to do with the ledger. -/
structure Accounted (w w' : World (Ledger σ C))
    (moments : List (Moment (Ledger σ C) (Numbered C))) : Prop where
  grows : w.Extends w' (moments.flatMap Moment.entries)
  sorted : (publishedIds moments).Pairwise (· < ·)
  later : ∀ id ∈ publishedIds moments, w.created < id
  made : ∀ m ∈ moments, ∀ chain, m.published? = some chain →
    ∃ ds, m.operation = .load ds ∧
      List.SublistForall₂
        (fun f d => m.before.manager.registry.Made d f m.entries ∧
          LedgerEntry.about f.filter.id (moments.flatMap Moment.entries) =
            LedgerEntry.about f.filter.id m.entries)
        chain.filters ds
  unpublished : ∀ m ∈ moments, m.published? = none →
    ∀ entry ∈ m.entries, entry.id ∉ publishedIds moments

theorem Accounted.nil {w : World (Ledger σ C)} (hw : w.created = w.plugins.created) :
    Accounted w w [] :=
  ⟨.of_none hw rfl rfl rfl, .nil, by simp [publishedIds], by simp, by simp⟩

/-- A call before a history. The numbers of its filters lie below those of the filters of the
history, so neither has entries about the filters of the other. -/
theorem Accounted.cons {m : Moment (Ledger σ C) (Numbered C)} {w' : World (Ledger σ C)}
    {moments : List (Moment (Ledger σ C) (Numbered C))} (hm : m.Accounted)
    (h : Accounted m.after.world w' moments) :
    Accounted m.before.world w' (m :: moments) := by
  have hown : ∀ id ∈ m.published?.toList.flatMap Chain.ids,
      m.before.world.created < id ∧ id ≤ m.after.world.created := by
    intro id hid
    obtain ⟨chain, hchain, hid⟩ := List.mem_flatMap.mp hid
    obtain ⟨_, _, _, _, hrange⟩ := hm.published chain (Option.mem_toList.mp hchain)
    exact hrange id hid
  have hle := hm.grows.le
  constructor
  · exact hm.grows.trans h.grows
  · rw [publishedIds_cons]
    refine List.pairwise_append.mpr ⟨?_, h.sorted, ?_⟩
    · cases hchain : m.published? with
      | none => simp
      | some chain =>
        obtain ⟨_, _, _, hpairwise, _⟩ := hm.published chain hchain
        simpa using hpairwise
    · intro id hid id' hid'
      have hlow := (hown id hid).2
      have hhigh := h.later id' hid'
      omega
  · intro id hid
    rw [publishedIds_cons] at hid
    rcases List.mem_append.mp hid with hid | hid
    · exact (hown id hid).1
    · have hhigh := h.later id hid
      omega
  · intro m' hm' chain hchain
    rcases List.mem_cons.mp hm' with rfl | hm'
    · obtain ⟨ds, hload, hkept, _, hrange⟩ := hm.published chain hchain
      refine ⟨ds, hload, sublistForall₂_imp hkept ?_⟩
      intro f hf d hd
      refine ⟨hd, ?_⟩
      have hothers : LedgerEntry.about f.filter.id (moments.flatMap Moment.entries) = [] :=
        h.grows.about_of_le (hrange f.filter.id (List.mem_map_of_mem hf)).2
      rw [List.flatMap_cons, LedgerEntry.about_append, hothers, List.append_nil]
    · obtain ⟨ds, hload, hkept⟩ := h.made m' hm' chain hchain
      refine ⟨ds, hload, sublistForall₂_imp hkept ?_⟩
      intro f hf d ⟨hd, habout⟩
      refine ⟨hd, ?_⟩
      have hothers : LedgerEntry.about f.filter.id m.entries = [] :=
        hm.grows.about_of_lt (h.later f.filter.id (mem_publishedIds hm' hchain hf))
      rw [List.flatMap_cons, LedgerEntry.about_append, hothers, List.nil_append, habout]
  · intro m' hm' hnone entry hentry hid
    rw [publishedIds_cons] at hid
    rcases List.mem_cons.mp hm' with rfl | hm'
    · simp only [hnone, Option.toList_none, List.flatMap_nil, List.nil_append] at hid
      have hlow := (hm.grows.range entry hentry).2
      have hhigh := h.later entry.id hid
      omega
    · rcases List.mem_append.mp hid with hid | hid
      · have hlow := (hown entry.id hid).2
        have hmem := List.mem_flatMap.mpr ⟨m', hm', hentry⟩
        have hhigh := (h.grows.range entry hmem).1
        omega
      · exact h.unpublished m' hm' hnone entry hentry hid

namespace Session

theorem register_accounted (t : Session (Ledger σ C) (Numbered C)) (name : String)
    (plugin : Plugin (Ledger σ C) (Numbered C)) (hw : t.world.created = t.world.plugins.created) :
    (t.moment (.register name plugin)).Accounted := by
  have hsame : t.world.Extends t.world [] := .of_none hw rfl rfl rfl
  have hworld : (t.manager.registry.enter name plugin t.world).2.2.plugins = t.world.plugins ∧
      (t.manager.registry.enter name plugin t.world).2.2.created = t.world.created := by
    rcases hregister : t.manager.registry.register name plugin with error | registry <;>
      simp [Registry.enter, hregister]
  exact .of_unpublished (hsame.congr_right hworld.1 hworld.2) rfl

theorem Records.apply_accounted {t : Session (Ledger σ C) (Numbered C)} {s : Session σ C}
    (h : t.Records s) (hw : t.world.created = t.world.plugins.created) (name : String)
    (options : Fields) : (t.moment (.apply name options)).Accounted := by
  obtain ⟨new, hnew, _⟩ := s.manager.registry.apply_extends ⟨name, options⟩ hw
  rw [← h.registry] at hnew
  exact .of_unpublished hnew rfl

theorem Records.load_accounted {t : Session (Ledger σ C) (Numbered C)} {s : Session σ C}
    (h : t.Records s) (hw : t.world.created = t.world.plugins.created) (ds : List Descriptor) :
    (t.moment (.load ds)).Accounted := by
  obtain ⟨new, hnew, hbuilt⟩ := s.manager.registry.buildFrom_extends 0 ds hw
  rw [← h.registry] at hnew hbuilt
  obtain ⟨hplugins, hcreated⟩ := t.manager.load_world ds t.world
  have hextends : t.world.Extends (t.perform (.load ds)).2.world new :=
    hnew.congr_right hplugins hcreated
  rcases t.moment_cases (.load ds) with ⟨hnone, _⟩ | ⟨b, hb, hreport, hactive⟩
  · exact .of_unpublished hextends (by simp [Moment.published?, hnone])
  · have hentries : (t.moment (.load ds)).entries = new := Moment.entries_of_extends hextends
    obtain ⟨hkept, hsorted, hrange⟩ := hbuilt b hb
    refine ⟨hentries.symm ▸ hextends, ?_⟩
    intro chain hchain
    rw [Moment.published?, hreport] at hchain
    obtain rfl : (t.perform (.load ds)).2.manager.active = chain := Option.some.inj hchain
    rw [hactive, hentries]
    refine ⟨ds, rfl, hkept, hsorted, ?_⟩
    intro id hid
    obtain ⟨f, hf, rfl⟩ := List.mem_map.mp hid
    obtain ⟨hlow, hhigh⟩ := hrange f hf
    exact ⟨hlow, Nat.le_trans hhigh (Nat.le_of_eq hcreated.symm)⟩

theorem Records.moment_accounted {t : Session (Ledger σ C) (Numbered C)} {s : Session σ C}
    (h : t.Records s) (hw : t.world.created = t.world.plugins.created) (op : Operation σ C) :
    (t.moment op.recorded).Accounted := by
  cases op with
  | register name plugin => exact t.register_accounted name (plugin.recorded name) hw
  | apply name options => exact h.apply_accounted hw name options
  | load ds => exact h.load_accounted hw ds

theorem Records.history_accounted {t : Session (Ledger σ C) (Numbered C)} {s : Session σ C}
    (h : t.Records s) (hw : t.world.created = t.world.plugins.created)
    (ops : List (Operation σ C)) :
    Accounted t.world (t.finish (ops.map Operation.recorded)).world
      (t.history (ops.map Operation.recorded)) := by
  induction ops generalizing t s with
  | nil => exact .nil hw
  | cons op ops ih =>
    have hm := h.moment_accounted hw op
    exact .cons hm (ih (h.perform op).2 hm.grows.created)

/-- In every history of a new manager the filters of the published chains were made by the plugins
under their names for the very loads that published them, one for each descriptor that was kept:
each was created, got the options of its descriptor and was initialized, once and with success, and
nothing else was ever done with it. No filter is published twice, none that a plugin has failed on,
and none of a rejected load, a load that ended in a panic, or a call for a single filter. -/
theorem published_filters_made (registry : Registry σ C) (policy : ReloadPolicy) (world : World σ)
    (ops : List (Operation σ C)) :
    let moments := (initial registry policy world).history ops
    let recorded := (initial registry.recorded policy (world.recorded C)).history
      (ops.map Operation.recorded)
    let entries := recorded.flatMap Moment.entries
    (recorded.map (fun m => m.answer.forget) = moments.map Moment.answer ∧
      (recorded.filterMap Moment.published?).map Chain.forget =
        moments.filterMap Moment.published?) ∧
    (∀ m ∈ recorded, ∀ chain, m.published? = some chain →
      ∃ ds, m.operation = .load ds ∧
        List.SublistForall₂
          (fun f d => m.before.manager.registry.Made d f m.entries ∧
            LedgerEntry.about f.filter.id entries = LedgerEntry.about f.filter.id m.entries)
          chain.filters ds) ∧
    (publishedIds recorded).Nodup ∧
    (∀ entry ∈ entries, entry.isFailure = true → entry.id ∉ publishedIds recorded) ∧
    (∀ m ∈ recorded, m.published? = none →
      ∀ entry ∈ m.entries, entry.id ∉ publishedIds recorded) := by
  intro moments recorded entries
  have hrecords : Session.Records _ _ := initial_records registry policy world
  have haccounted : Accounted _ _ recorded := hrecords.history_accounted rfl ops
  refine ⟨hrecords.history ops, haccounted.made, haccounted.sorted.imp Nat.ne_of_lt, ?_,
    haccounted.unpublished⟩
  intro entry hentry hfailure hid
  obtain ⟨chain, hchain, hid⟩ := List.mem_flatMap.mp hid
  obtain ⟨m, hm, hpublished⟩ := List.mem_filterMap.mp hchain
  obtain ⟨f, hf, hfid⟩ := List.mem_map.mp hid
  obtain ⟨ds, _, hkept⟩ := haccounted.made m hm chain hpublished
  obtain ⟨d, hd, habout⟩ := exists_of_mem_sublistForall₂ hkept hf
  obtain ⟨_, _, _, plugin, fresh, bound, _, _, _, _, _, _, _, hown⟩ := hd
  have hmem : entry ∈ LedgerEntry.about f.filter.id entries := by
    simp [LedgerEntry.about, hentry, hfid]
  rw [habout, hown] at hmem
  simp only [List.mem_cons, List.not_mem_nil, or_false] at hmem
  rcases hmem with rfl | rfl | rfl <;> exact Bool.noConfusion hfailure

end Session

end FilterGateway
