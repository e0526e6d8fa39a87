import FilterGateway.Catalogue.Plugins
import FilterGateway.Proofs.Manager.Load
import FilterGateway.Proofs.Registry.Registration

/-!
# Steady registries

In a steady registry what becomes of a filter depends on its name and its options only, not on what
happened before. If all descriptors of a list can be built, then each load of the list publishes
filters with the same names and the same configurations, in the order of the list.
-/

namespace FilterGateway

variable {σ C : Type}

/-- The names and configurations of filters. -/
def profile (filters : List (LoadedFilter C)) : List (String × C) :=
  filters.map fun f => (f.name, f.filter.config)

/-- A plugin whose code does not look at the state of plugins. -/
structure Plugin.Stateless (plugin : Plugin σ C) : Prop where
  create : ∀ s s', (plugin.create s).1 = (plugin.create s').1
  bind : ∀ options c s s', (plugin.bind options c s).1 = (plugin.bind options c s').1
  init : ∀ c s s', (plugin.init c s).1 = (plugin.init c s').1

namespace Registry

/-- What becomes of a filter, but for its number. -/
def outcome (r : Registry σ C) (name : String) (options : Fields) (w : World σ) :
    Option (Except FilterError C) :=
  (r.apply name options w).1.map fun result => result.map Instance.config

/-- Outcomes depend on the name and the options of a filter only. -/
def Steady (r : Registry σ C) : Prop :=
  ∀ name options w w', r.outcome name options w = r.outcome name options w'

def Stateless (r : Registry σ C) : Prop :=
  ∀ name plugin, r.resolve name = .ok plugin → plugin.Stateless

def Builds (r : Registry σ C) (d : Descriptor) : Prop :=
  ∃ w filter, (r.apply d.name d.options w).1 = some (.ok filter)

theorem Builds.of_isOk {r : Registry σ C} {d : Descriptor} {w : World σ}
    (h : (r.apply d.name d.options w).1.any Except.isOk = true) : r.Builds d := by
  rcases happly : (r.apply d.name d.options w).1 with _ | _ | filter <;> rw [happly] at h
  · cases h
  · cases h
  · exact ⟨w, filter, happly⟩

end Registry

theorem Plugin.Stateless.configure {plugin : Plugin σ C} (h : plugin.Stateless) (name : String)
    (options : Fields) (made made' : Instance C) (w w' : World σ)
    (hmade : made.config = made'.config) :
    (plugin.configure name options made w).1.map (fun result => result.map Instance.config) =
      (plugin.configure name options made' w').1.map fun result => result.map Instance.config := by
  have hbind := h.bind options made.config w.plugins w'.plugins
  rcases hb : plugin.bind options made.config w.plugins with ⟨bound | message | _, s⟩ <;>
    rcases hb' : plugin.bind options made.config w'.plugins with ⟨outcome, s'⟩ <;>
    rw [hb, hb'] at hbind <;> obtain rfl := hbind <;> rw [hmade] at hb'
  · have hinit := h.init bound s s'
    rcases hi : plugin.init bound s with ⟨ready | message | _, t⟩ <;>
      rcases hi' : plugin.init bound s' with ⟨outcome, t'⟩ <;>
      rw [hi, hi'] at hinit <;> obtain rfl := hinit <;>
      simp [Plugin.configure, Plugin.finish, hb, hb', hi, hi', Except.map]
  · simp [Plugin.configure, hb, hb', Except.map]
  · simp [Plugin.configure, hb, hb']

namespace Registry

theorem Stateless.steady {r : Registry σ C} (h : r.Stateless) : r.Steady := by
  intro name options w w'
  rcases hresolve : r.resolve name with error | plugin
  · simp [outcome, apply, hresolve]
  · have hstateless := h name plugin hresolve
    have hcreate := hstateless.create w.plugins w'.plugins
    rcases hc : plugin.create w.plugins with ⟨fresh | message | _, s⟩ <;>
      rcases hc' : plugin.create w'.plugins with ⟨made, s'⟩ <;>
      rw [hc, hc'] at hcreate <;> obtain rfl := hcreate
    · simp only [outcome, apply, hresolve, Plugin.make, hc, hc']
      exact hstateless.configure name options _ _ _ _ rfl
    · simp [outcome, apply, hresolve, Plugin.make, hc, hc', Except.map]
    · simp [outcome, apply, hresolve, Plugin.make, hc, hc']

theorem Stateless.register {r r' : Registry σ C} {name : String} {plugin : Plugin σ C}
    (h : r.Stateless) (hplugin : plugin.Stateless) (hregister : r.register name plugin = .ok r') :
    r'.Stateless := by
  intro other found hresolve
  rw [resolve_register hregister] at hresolve
  by_cases hname : other = name
  · rw [if_pos hname] at hresolve
    obtain rfl := Except.ok.inj hresolve
    exact hplugin
  · rw [if_neg hname] at hresolve
    exact h other found hresolve

theorem Steady.apply_of_builds {r : Registry σ C} (h : r.Steady) {d : Descriptor}
    (hd : r.Builds d) :
    ∃ config, ∀ w, ∃ filter w', r.apply d.name d.options w = (some (.ok filter), w') ∧
      filter.config = config := by
  obtain ⟨w₀, built, hbuilt⟩ := hd
  refine ⟨built.config, ?_⟩
  intro w
  have hsame := h d.name d.options w w₀
  simp only [outcome, hbuilt, Option.map_some] at hsame
  rcases happly : r.apply d.name d.options w with ⟨_ | (error | filter), w'⟩ <;>
    rw [happly] at hsame
  · exact absurd hsame (by simp)
  · exact absurd hsame (by simp [Except.map])
  · exact ⟨filter, w', rfl, by simpa [Except.map] using hsame⟩

theorem Steady.buildFrom_of_builds {r : Registry σ C} (h : r.Steady) {ds : List Descriptor}
    (hds : ∀ d ∈ ds, r.Builds d) :
    ∃ p, ∀ index w, ∃ b, (r.buildFrom index ds w).1 = some b ∧ b.failures = [] ∧
      profile b.filters = p := by
  induction ds with
  | nil => exact ⟨[], fun index w => ⟨{}, rfl, rfl, rfl⟩⟩
  | cons d ds ih =>
    obtain ⟨config, hconfig⟩ := h.apply_of_builds (hds d List.mem_cons_self)
    obtain ⟨p, hp⟩ := ih fun d' hd' => hds d' (List.mem_cons_of_mem _ hd')
    refine ⟨(d.name, config) :: p, ?_⟩
    intro index w
    obtain ⟨filter, w', happly, hfilter⟩ := hconfig w
    obtain ⟨b, hb, hfailures, hprofile⟩ := hp (index + 1) w'
    refine ⟨{ b with filters := ⟨d.name, filter⟩ :: b.filters }, ?_, hfailures, ?_⟩
    · rw [buildFrom_cons_ok happly, hb]
      rfl
    · rw [← hprofile, ← hfilter]
      rfl

end Registry

namespace Manager

/-- The chain in force was published, and is what the descriptors come to whenever they are built,
provided that all of them can be. -/
def Serves (m : Manager σ C) (ds : List Descriptor) : Prop :=
  (∀ d ∈ ds, m.registry.Builds d) →
    0 < m.active.generation ∧
      ∀ w, ∃ b, (m.registry.build ds w).1 = some b ∧ profile b.filters = profile m.active.filters

/-- A manager of a steady registry serves the descriptors that it has loaded last, under either
policy. -/
theorem load_serves {m : Manager σ C} (h : m.registry.Steady) (ds : List Descriptor)
    (w : World σ) : (m.load ds w).2.1.Serves ds := by
  intro hbuilds
  rw [(m.load_frame ds w).1] at hbuilds ⊢
  obtain ⟨p, hp⟩ := h.buildFrom_of_builds hbuilds
  obtain ⟨b, hb, hfailures, hprofile⟩ := hp 0 w
  obtain ⟨_, hm⟩ := load_of_kept hb (m.rejects_of_complete hfailures)
  rw [hm, active_publish]
  -- Another world gives another build, but with the same profile.
  refine ⟨Nat.succ_pos _, ?_⟩
  intro w'
  obtain ⟨b', hb', _, hprofile'⟩ := hp 0 w'
  exact ⟨b', hb', hprofile'.trans hprofile.symm⟩

theorem load_of_builds {m : Manager σ C} (h : m.registry.Steady) {ds : List Descriptor}
    (hds : ∀ d ∈ ds, m.registry.Builds d) (w : World σ) : (m.load ds w).1 ≠ none := by
  obtain ⟨p, hp⟩ := h.buildFrom_of_builds hds
  obtain ⟨b, hb, hfailures, _⟩ := hp 0 w
  obtain ⟨hresult, _⟩ := load_of_kept hb (m.rejects_of_complete hfailures)
  rw [hresult]
  exact Option.some_ne_none _

theorem Serves.profile_eq {m m' : Manager σ C} {ds : List Descriptor} (h : m.Serves ds)
    (h' : m'.Serves ds) (hregistry : m.registry = m'.registry)
    (hbuilds : ∀ d ∈ ds, m.registry.Builds d) (w : World σ) :
    profile m.active.filters = profile m'.active.filters := by
  obtain ⟨b, hb, hprofile⟩ := (h hbuilds).2 w
  obtain ⟨b', hb', hprofile'⟩ := (h' (hregistry ▸ hbuilds)).2 w
  rw [← hregistry, hb] at hb'
  obtain rfl : b = b' := Option.some.inj hb'
  exact hprofile.symm.trans hprofile'

end Manager

namespace Catalogue

theorem plugin_stateless (made : Outcome Setup) :
    (plugin fun calls => (made, calls)).Stateless where
  create s s' := rfl
  bind options c s s' := by
    simp only [plugin]
    cases c.bind options <;> rfl
  init c s s' := rfl

theorem pluginFor_stateless (name : String) {label : String} (h : label ≠ "flaky") :
    (pluginFor name label).Stateless := by
  simp only [pluginFor, if_neg h]
  split
  · exact plugin_stateless _
  · exact plugin_stateless _

/-- The plugins of the catalogue are steady, but for the flaky one. -/
theorem registryOf_steady {plugins : List (String × String)}
    (h : ∀ entry ∈ plugins, entry.2 ≠ "flaky") : (registryOf plugins).Steady := by
  apply Registry.Stateless.steady
  rw [registryOf]
  refine List.foldlRecOn plugins _ ?_ ?_
  · intro name plugin hresolve
    cases hresolve
  · intro r hr entry hentry
    rcases hregister : r.register entry.1 (pluginFor entry.1 entry.2) with e | r'
    · simpa only [hregister] using hr
    · simpa only [hregister] using
        hr.register (pluginFor_stateless entry.1 (h entry hentry)) hregister

end Catalogue

end FilterGateway
