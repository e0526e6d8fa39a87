import FilterGateway.Proofs.Ledger.Recording
import Mathlib.Data.List.Forall2

/-!
# Entries of a build

Filters are numbered in the order in which they are made. A build enters into the ledger what
happens to the filters that it makes itself, and each filter that comes out of it was created, bound
and initialized for a descriptor of its own, in the order of the descriptors.
-/

namespace FilterGateway

variable {σ C : Type}

theorem sublistForall₂_imp {α β : Type} {R S : α → β → Prop} {xs : List α} {ys : List β}
    (h : List.SublistForall₂ R xs ys) (himp : ∀ x ∈ xs, ∀ y, R x y → S x y) :
    List.SublistForall₂ S xs ys := by
  induction h with
  | nil => exact .nil
  | cons hxy _ ih =>
    refine .cons (himp _ List.mem_cons_self _ hxy) (ih ?_)
    intro x hx
    exact himp x (List.mem_cons_of_mem _ hx)
  | cons_right _ ih => exact .cons_right (ih himp)

def Outcome.isDone {α : Type} : Outcome α → Bool
  | done _ => true
  | failed _ | panicked => false

namespace LedgerEntry

/-- Whether the entry tells of something that a plugin did not manage to do. -/
def isFailure : LedgerEntry C → Bool
  | created _ _ _ => false
  | bound _ _ _ outcome | initialized _ _ outcome => !outcome.isDone

def about (id : Nat) (entries : List (LedgerEntry C)) : List (LedgerEntry C) :=
  entries.filter fun entry => entry.id == id

@[simp] theorem about_append (id : Nat) (xs ys : List (LedgerEntry C)) :
    about id (xs ++ ys) = about id xs ++ about id ys :=
  List.filter_append ..

theorem about_eq_nil {id : Nat} {entries : List (LedgerEntry C)}
    (h : ∀ entry ∈ entries, entry.id ≠ id) : about id entries = [] := by
  rw [about, List.filter_eq_nil_iff]
  intro entry hentry
  simpa using h entry hentry

end LedgerEntry

/-- How the filter `f` came about for the descriptor `d`: the plugin under its name made it, bound
the options of `d` onto the fresh configuration and then initialized it, and this is all that the
entries say about it. -/
def Registry.Made (r : Registry (Ledger σ C) (Numbered C)) (d : Descriptor)
    (f : LoadedFilter (Numbered C)) (entries : List (LedgerEntry C)) : Prop :=
  f.name = d.name ∧ f.filter.inits = 1 ∧ f.filter.config.id = f.filter.id ∧
    ∃ (plugin : Plugin σ C) (fresh bound : C) (s₁ s₂ s₃ : σ),
      r.resolve f.name = .ok (plugin.recorded f.name) ∧
      plugin.create s₁ = (.done fresh, s₂) ∧
      plugin.bind d.options fresh s₂ = (.done bound, s₃) ∧
      (plugin.init bound s₃).1 = .done f.filter.config.config ∧
      LedgerEntry.about f.filter.id entries =
        [.created f.filter.id f.name fresh,
          .bound f.filter.id d.options fresh (.done bound),
          .initialized f.filter.id bound (.done f.filter.config.config)]

namespace Registry.Made

variable {r : Registry (Ledger σ C) (Numbered C)} {d : Descriptor} {f : LoadedFilter (Numbered C)}
  {entries : List (LedgerEntry C)}

theorem congr {others : List (LedgerEntry C)} (h : r.Made d f entries)
    (hsame : LedgerEntry.about f.filter.id others = LedgerEntry.about f.filter.id entries) :
    r.Made d f others := by
  obtain ⟨hname, hinits, hid, plugin, fresh, bound, s₁, s₂, s₃, hr, hc, hb, hi, hentries⟩ := h
  exact ⟨hname, hinits, hid, plugin, fresh, bound, s₁, s₂, s₃, hr, hc, hb, hi,
    hsame.trans hentries⟩

theorem append_left {before : List (LedgerEntry C)} (h : r.Made d f entries)
    (hbefore : LedgerEntry.about f.filter.id before = []) : r.Made d f (before ++ entries) :=
  h.congr (by rw [LedgerEntry.about_append, hbefore, List.nil_append])

theorem append_right {after : List (LedgerEntry C)} (h : r.Made d f entries)
    (hafter : LedgerEntry.about f.filter.id after = []) : r.Made d f (entries ++ after) :=
  h.congr (by rw [LedgerEntry.about_append, hafter, List.append_nil])

end Registry.Made

/-- The world `w'` comes after `w`, and meanwhile the ledger has got `new` entries, which are about
filters that were made meanwhile. -/
structure World.Extends (w w' : World (Ledger σ C)) (new : List (LedgerEntry C)) : Prop where
  entries : w'.plugins.entries = w.plugins.entries ++ new
  created : w'.created = w'.plugins.created
  le : w.created ≤ w'.created
  range : ∀ entry ∈ new, w.created < entry.id ∧ entry.id ≤ w'.created

namespace World.Extends

theorem about_of_lt {w w' : World (Ledger σ C)} {new : List (LedgerEntry C)}
    (h : w.Extends w' new) {id : Nat} (hid : w'.created < id) : LedgerEntry.about id new = [] := by
  apply LedgerEntry.about_eq_nil
  intro entry hentry heq
  have hle := (h.range entry hentry).2
  omega

theorem about_of_le {w w' : World (Ledger σ C)} {new : List (LedgerEntry C)}
    (h : w.Extends w' new) {id : Nat} (hid : id ≤ w.created) : LedgerEntry.about id new = [] := by
  apply LedgerEntry.about_eq_nil
  intro entry hentry heq
  have hlt := (h.range entry hentry).1
  omega

theorem of_none {w w' : World (Ledger σ C)} (hw : w.created = w.plugins.created)
    (hentries : w'.plugins.entries = w.plugins.entries) (hcreated : w'.created = w.created)
    (hplugins : w'.plugins.created = w.plugins.created) : w.Extends w' [] :=
  ⟨by simp [hentries], by omega, by omega, by simp⟩

theorem trans {w w' w'' : World (Ledger σ C)} {xs ys : List (LedgerEntry C)}
    (h : w.Extends w' xs) (h' : w'.Extends w'' ys) : w.Extends w'' (xs ++ ys) := by
  have hle := h.le
  have hle' := h'.le
  refine ⟨?_, h'.created, by omega, ?_⟩
  · rw [h'.entries, h.entries, List.append_assoc]
  · intro entry hentry
    rcases List.mem_append.mp hentry with hmem | hmem
    · have hrange := h.range entry hmem
      omega
    · have hrange := h'.range entry hmem
      omega

theorem of_one {w w' : World (Ledger σ C)} {new : List (LedgerEntry C)}
    (hentries : w'.plugins.entries = w.plugins.entries ++ new)
    (hcreated : w'.created = w.created + 1) (hplugins : w'.plugins.created = w.created + 1)
    (hnew : ∀ entry ∈ new, entry.id = w.created + 1) : w.Extends w' new := by
  refine ⟨hentries, by omega, by omega, ?_⟩
  intro entry hentry
  have hid := hnew entry hentry
  omega

theorem congr_right {w w' w'' : World (Ledger σ C)} {new : List (LedgerEntry C)}
    (h : w.Extends w' new) (hplugins : w''.plugins = w'.plugins)
    (hcreated : w''.created = w'.created) : w.Extends w'' new :=
  ⟨hplugins ▸ h.entries, by rw [hplugins, hcreated, h.created], hcreated ▸ h.le,
    hcreated ▸ h.range⟩

theorem of_fail {w w' : World (Ledger σ C)} {new : List (LedgerEntry C)} {failure : FilterFailure}
    (h : (Registry.fail failure w).Extends w' new) : w.Extends w' new :=
  ⟨h.entries, h.created, h.le, h.range⟩

end World.Extends

namespace Plugin

variable (label name : String) (plugin : Plugin σ C) (options : Fields)

theorem finish_entries (made : Instance (Numbered C)) (w : World (Ledger σ C)) :
    let result := (plugin.recorded label).finish name options made w
    ∃ outcome,
      (plugin.init made.config.config w.plugins.plugins).1 = outcome ∧
      result.2.created = w.created ∧ result.2.plugins.created = w.plugins.created ∧
      result.2.plugins.entries =
        w.plugins.entries ++ [.initialized made.config.id made.config.config outcome] ∧
      ∀ filter, result.1 = some (.ok filter) → ∃ ready, outcome = .done ready ∧
        filter = ⟨made.id, ⟨made.config.id, ready⟩, made.inits + 1⟩ := by
  rcases hinit : plugin.init made.config.config w.plugins.plugins with ⟨ready | message | _, s⟩ <;>
    simp [finish, recorded, hinit, Outcome.map, eq_comm]

theorem configure_entries (made : Instance (Numbered C)) (w : World (Ledger σ C)) :
    let result := (plugin.recorded label).configure name options made w
    ∃ new,
      (∀ entry ∈ new, entry.id = made.config.id) ∧
      result.2.created = w.created ∧ result.2.plugins.created = w.plugins.created ∧
      result.2.plugins.entries = w.plugins.entries ++ new ∧
      ∀ filter, result.1 = some (.ok filter) → ∃ bound ready s,
        plugin.bind options made.config.config w.plugins.plugins = (.done bound, s) ∧
        (plugin.init bound s).1 = .done ready ∧
        new = [.bound made.config.id options made.config.config (.done bound),
          .initialized made.config.id bound (.done ready)] ∧
        filter = ⟨made.id, ⟨made.config.id, ready⟩, made.inits + 1⟩ := by
  intro result
  rcases hbind : plugin.bind options made.config.config w.plugins.plugins with
    ⟨bound | message | _, s⟩
  · have hresult : result = (plugin.recorded label).finish name options
        { made with config := ⟨made.config.id, bound⟩ }
        { w with plugins := ⟨s, w.plugins.created, w.plugins.entries ++
            [.bound made.config.id options made.config.config (.done bound)]⟩ } := by
      simp [result, configure, recorded, hbind, Outcome.map]
    obtain ⟨outcome, hinit, hcreated, hplugins, hentries, hfilter⟩ :=
      finish_entries label name plugin options { made with config := ⟨made.config.id, bound⟩ }
        { w with plugins := ⟨s, w.plugins.created, w.plugins.entries ++
            [.bound made.config.id options made.config.config (.done bound)]⟩ }
    rw [← hresult] at hcreated hplugins hentries hfilter
    refine ⟨[.bound made.config.id options made.config.config (.done bound),
      .initialized made.config.id bound outcome], ?_, hcreated, hplugins, ?_, ?_⟩
    · simp [LedgerEntry.id]
    · rw [hentries]
      simp
    · intro filter hok
      obtain ⟨ready, rfl, rfl⟩ := hfilter filter hok
      exact ⟨bound, ready, s, rfl, hinit, rfl, rfl⟩
  · refine ⟨[.bound made.config.id options made.config.config (.failed message)], ?_⟩
    simp [result, configure, recorded, hbind, Outcome.map, LedgerEntry.id]
  · refine ⟨[.bound made.config.id options made.config.config .panicked], ?_⟩
    simp [result, configure, recorded, hbind, Outcome.map, LedgerEntry.id]

end Plugin

namespace Registry

theorem apply_extends (r : Registry σ C) (d : Descriptor) {w : World (Ledger σ C)}
    (hw : w.created = w.plugins.created) :
    ∃ new, w.Extends (r.recorded.apply d.name d.options w).2 new ∧
      ∀ filter, (r.recorded.apply d.name d.options w).1 = some (.ok filter) →
        filter.id = w.created + 1 ∧ (r.recorded.apply d.name d.options w).2.created = filter.id ∧
        r.recorded.Made d ⟨d.name, filter⟩ new := by
  rcases hresolve : r.resolve d.name with error | plugin
  · have hmissing : r.recorded.apply d.name d.options w = (some (.error error), w) := by
      simp [apply, resolve_recorded, hresolve, Except.map]
    rw [hmissing]
    exact ⟨[], .of_none hw rfl rfl rfl, by simp⟩
  have hrecorded : r.recorded.resolve d.name = .ok (plugin.recorded d.name) := by
    rw [resolve_recorded, hresolve]
    rfl
  rcases hcreate : plugin.create w.plugins.plugins with ⟨fresh | message | _, s⟩
  · let made : Instance (Numbered C) := ⟨w.created + 1, ⟨w.created + 1, fresh⟩, 0⟩
    let w' : World (Ledger σ C) :=
      { w with
        plugins := ⟨s, w.created + 1,
          w.plugins.entries ++ [.created (w.created + 1) d.name fresh]⟩
        created := w.created + 1 }
    have happly : r.recorded.apply d.name d.options w =
        (plugin.recorded d.name).configure d.name d.options made w' := by
      simp [apply, hrecorded, Plugin.make, Plugin.recorded, hcreate, made, w', hw]
    obtain ⟨new, hnew, hcreated, hplugins, hentries, hfilter⟩ :=
      plugin.configure_entries d.name d.name d.options made w'
    rw [← happly] at hcreated hplugins hentries hfilter
    refine ⟨.created (w.created + 1) d.name fresh :: new, .of_one ?_ hcreated hplugins ?_, ?_⟩
    · rw [hentries]
      simp [w']
    · intro entry hentry
      rcases List.mem_cons.mp hentry with rfl | hmem
      · rfl
      · exact hnew entry hmem
    · intro filter hok
      obtain ⟨bound, ready, s', hbind, hinit, rfl, rfl⟩ := hfilter filter hok
      refine ⟨rfl, hcreated, rfl, rfl, rfl, plugin, fresh, bound, w.plugins.plugins, s, s',
        hrecorded, hcreate, hbind, hinit, ?_⟩
      simp [LedgerEntry.about, LedgerEntry.id, made]
  · have happly : r.recorded.apply d.name d.options w =
        (some (.error (.instantiation d.name message)),
          { w with plugins := { w.plugins with plugins := s } }) := by
      simp [apply, hrecorded, Plugin.make, Plugin.recorded, hcreate]
    rw [happly]
    exact ⟨[], .of_none hw rfl rfl rfl, by simp⟩
  · have happly : r.recorded.apply d.name d.options w =
        (none, { w with plugins := { w.plugins with plugins := s } }) := by
      simp [apply, hrecorded, Plugin.make, Plugin.recorded, hcreate]
    rw [happly]
    exact ⟨[], .of_none hw rfl rfl rfl, by simp⟩

/-- What a list of descriptors comes to: each filter that is built was made for a descriptor of its
own, in the order of the list, and later filters have larger numbers. -/
theorem buildFrom_extends (r : Registry σ C) (index : Nat) (ds : List Descriptor)
    {w : World (Ledger σ C)} (hw : w.created = w.plugins.created) :
    ∃ new, w.Extends (r.recorded.buildFrom index ds w).2 new ∧
      ∀ b, (r.recorded.buildFrom index ds w).1 = some b →
        List.SublistForall₂ (fun f d => r.recorded.Made d f new) b.filters ds ∧
        (b.filters.map (·.filter.id)).Pairwise (· < ·) ∧
        ∀ f ∈ b.filters, w.created < f.filter.id ∧
          f.filter.id ≤ (r.recorded.buildFrom index ds w).2.created := by
  induction ds generalizing index w with
  | nil =>
    refine ⟨[], .of_none hw rfl rfl rfl, ?_⟩
    intro b hb
    obtain rfl : {} = b := Option.some.inj hb
    exact ⟨.nil, .nil, by simp⟩
  | cons d ds ih =>
    obtain ⟨first, hfirst, hmade⟩ := r.apply_extends d hw
    rcases h : r.recorded.apply d.name d.options w with ⟨_ | (error | filter), w'⟩ <;>
      rw [h] at hfirst hmade
    · rw [buildFrom_cons_panicked h]
      exact ⟨first, hfirst, by simp⟩
    · obtain ⟨rest, hrest, hbuilt⟩ :=
        ih (index + 1) (w := fail ⟨index, error⟩ w') hfirst.created
      rw [buildFrom_cons_error h]
      refine ⟨first ++ rest, hfirst.trans hrest.of_fail, ?_⟩
      intro b hb
      obtain ⟨b', hb', rfl⟩ := Option.map_eq_some_iff.mp hb
      obtain ⟨hkept, hsorted, hrange⟩ := hbuilt b' hb'
      have hle : w.created ≤ w'.created := hfirst.le
      have hnew : ∀ f ∈ b'.filters, w'.created < f.filter.id := fun f hf => (hrange f hf).1
      refine ⟨.cons_right (sublistForall₂_imp hkept ?_), hsorted, ?_⟩
      · intro f hf d' hd'
        exact hd'.append_left (hfirst.about_of_lt (hnew f hf))
      · intro f hf
        exact ⟨Nat.lt_of_le_of_lt hle (hnew f hf), (hrange f hf).2⟩
    · obtain ⟨rest, hrest, hbuilt⟩ := ih (index + 1) (w := w') hfirst.created
      rw [buildFrom_cons_ok h]
      refine ⟨first ++ rest, hfirst.trans hrest, ?_⟩
      intro b hb
      obtain ⟨b', hb', rfl⟩ := Option.map_eq_some_iff.mp hb
      obtain ⟨hkept, hsorted, hrange⟩ := hbuilt b' hb'
      obtain ⟨hid, hcreated, hfilter⟩ := hmade filter rfl
      have hcreated : w'.created = filter.id := hcreated
      have hle : w'.created ≤ (r.recorded.buildFrom (index + 1) ds w').2.created := hrest.le
      have hnew : ∀ f ∈ b'.filters, w'.created < f.filter.id := fun f hf => (hrange f hf).1
      -- The first filter is the last one made before the others, which have larger numbers.
      refine ⟨.cons ?_ (sublistForall₂_imp hkept ?_), ?_, ?_⟩
      · exact hfilter.append_right (hrest.about_of_le (Nat.le_of_eq hcreated.symm))
      · intro f hf d' hd'
        exact hd'.append_left (hfirst.about_of_lt (hnew f hf))
      · simp only [List.map_cons, List.pairwise_cons, List.mem_map, forall_exists_index, and_imp,
          forall_apply_eq_imp_iff₂]
        exact ⟨fun f hf => hcreated ▸ hnew f hf, hsorted⟩
      · intro f hf
        rcases List.mem_cons.mp hf with rfl | hf
        · exact ⟨hid ▸ Nat.lt_succ_self w.created, hcreated ▸ hle⟩
        · have hlow := hnew f hf
          exact ⟨by omega, (hrange f hf).2⟩

end Registry

end FilterGateway
