import FilterGateway.Proofs.Config.Faults
import FilterGateway.Proofs.Registry.Registration

/-!
# Names that can be registered

A configuration is refused for the name of a filter when that name is blank, and a plugin is refused
for the same reason. So the names that validation turns down are exactly those that resolve in no
registry, whatever calls of registration have led to it: none of them could ever be found, and no
name is turned down that a registration could make known.
-/

namespace FilterGateway

namespace GatewayConfig

/-- Whether validation reports that the filter at a position has a blank name. -/
def ReportsBlank (config : GatewayConfig) (position : Nat) : Prop :=
  ∃ errors, config.validate = .error errors ∧ .emptyFilterName position ∈ errors

theorem mem_faults_iff (config : GatewayConfig) (position : Nat) :
    .emptyFilterName position ∈ config.faults ↔ position ∈ config.blankPositions := by
  rw [faults_eq, List.mem_append, List.mem_map]
  have hinterval : .emptyFilterName position ∉
      if config.reload.pollInterval = 0 then [ValidationError.zeroPollInterval] else [] := by
    split <;> simp
  simp [hinterval]

theorem reportsBlank_iff (config : GatewayConfig) (position : Nat) :
    config.ReportsBlank position ↔
      ∃ d, config.filters[position]? = some d ∧ Text.isBlank d.name = true := by
  simp only [Text.isBlank_iff]
  rw [← mem_blankPositions, ← mem_faults_iff]
  constructor
  · rintro ⟨errors, hvalidate, hmem⟩
    rw [validate] at hvalidate
    split at hvalidate
    · cases hvalidate
    · obtain rfl := Except.error.inj hvalidate
      exact hmem
  · intro hmem
    exact ⟨config.faults, by rw [validate, if_neg (by simpa using List.ne_nil_of_mem hmem)], hmem⟩

end GatewayConfig

namespace Registry

variable {σ C : Type}

theorem resolve_eq_ok_or (r : Registry σ C) (name : String) :
    (∃ plugin, r.resolve name = .ok plugin) ∨ r.resolve name = .error (.pluginNotFound name) := by
  rw [resolve]
  cases r.plugins.get? name with
  | none => exact Or.inr rfl
  | some plugin => exact Or.inl ⟨plugin, rfl⟩

/-- A plugin whose code does nothing but panic can be registered like any other. -/
def panicking : Plugin σ C where
  create s := (.panicked, s)
  bind _ _ s := (.panicked, s)
  init _ s := (.panicked, s)

/-- No registry has a plugin under a blank name, and one call can give any other name its plugin. -/
theorem resolves_nowhere_iff (w : World σ) (name : String) :
    (∀ calls : List (String × Plugin σ C),
      (empty.enterAll w calls).1.resolve name = .error (.pluginNotFound name)) ↔
      Text.isBlank name = true := by
  constructor
  · intro hnowhere
    by_contra hnamed
    have hone := hnowhere [(name, panicking)]
    rw [resolve_enterAll, firstNamed, if_neg hnamed, List.lookup_cons_self] at hone
    cases hone
  · intro hblank calls
    simp [resolve, get?_eq_none_of_isBlank _ hblank]

/-- Validation reports a blank name for a filter, wherever it stands in a configuration, exactly
when its name is found in no registry that calls of registration can lead to; so it refuses no name
that some registration could make known. -/
theorem reported_iff_resolves_nowhere (w : World σ) (config : GatewayConfig)
    (earlier later : List Descriptor) (name : String) (options : Fields) :
    let listed := { config with filters := earlier ++ Descriptor.mk name options :: later }
    (listed.ReportsBlank earlier.length ↔
      ∀ calls : List (String × Plugin σ C),
        (empty.enterAll w calls).1.resolve name = .error (.pluginNotFound name)) ∧
    (¬listed.ReportsBlank earlier.length ↔
      ∃ (calls : List (String × Plugin σ C)) (plugin : Plugin σ C),
        (empty.enterAll w calls).1.resolve name = .ok plugin) := by
  intro listed
  have hreports : listed.ReportsBlank earlier.length ↔
      ∀ calls : List (String × Plugin σ C),
        (empty.enterAll w calls).1.resolve name = .error (.pluginNotFound name) := by
    rw [resolves_nowhere_iff, GatewayConfig.reportsBlank_iff]
    simp [listed]
  refine ⟨hreports, ?_⟩
  rw [hreports, not_forall]
  refine exists_congr fun calls => ?_
  rcases resolve_eq_ok_or (empty.enterAll w calls).1 name with ⟨plugin, hok⟩ | herror
  · simp [hok]
  · simp [herror]

end Registry

end FilterGateway
