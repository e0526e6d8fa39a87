import FilterGateway.Proofs.Manager.Log
import FilterGateway.Proofs.Watch.Restart

/-!
# How a gateway starts

A file without a valid configuration is reported and keeps a gateway from starting. Filters that
fail to build do not: the gateway starts with the chain of the others or with the empty chain, as
the policy in the file says. But a plugin that panics ends the start itself, while the reload loop
survives the same plugin and keeps its chain.
-/

namespace FilterGateway

variable {σ C : Type}

theorem loadConfig_eq_ok {file : FileState} {config : GatewayConfig}
    (h : loadConfig file = .ok config) :
    ∃ text, file.text = .ok text ∧ parseConfig text = .ok config := by
  rcases htext : file.text with cause | text
  · simp [loadConfig, htext] at h
  · exact ⟨text, rfl, by simpa [loadConfig, htext] using h⟩

theorem loadConfig_toByteArray {text : String} {config : GatewayConfig}
    (h : parseConfig text = .ok config) : loadConfig (.bytes text.toByteArray) = .ok config := by
  rw [loadConfig, FileState.text_toByteArray]
  exact h

namespace Manager

theorem load_first (registry : Registry σ C) (policy : ReloadPolicy) {ds : List Descriptor}
    {w : World σ} {b : Built C} (hb : (registry.build ds w).1 = some b) :
    let m : Manager σ C := { registry, policy }
    (m.load ds w).1 ≠ none ∧
      (m.load ds w).2.1.active =
        if b.failures = [] ∨ policy = .skip then ⟨1, b.filters⟩ else {} := by
  intro m
  cases hrejects : m.rejects b with
  | true =>
    obtain ⟨hresult, hm⟩ := load_of_rejects hb hrejects
    obtain ⟨hfailures, hpolicy⟩ := (m.rejects_iff b).mp hrejects
    have hreject : policy = .reject := hpolicy
    refine ⟨by rw [hresult]; exact Option.some_ne_none _, ?_⟩
    rw [hm, if_neg (by simp [hfailures, hreject])]
  | false =>
    obtain ⟨hresult, hm⟩ := load_of_kept hb hrejects
    have hkept : b.failures = [] ∨ policy = .skip := by
      by_contra hnot
      obtain ⟨hfailures, hpolicy⟩ := not_or.mp hnot
      have hreject : m.policy = .reject := by
        cases policy with
        | reject => rfl
        | skip => exact absurd rfl hpolicy
      have hturned := (m.rejects_iff b).mpr ⟨hfailures, hreject⟩
      exact Bool.noConfusion (hrejects.symm.trans hturned)
    refine ⟨by rw [hresult]; exact Option.some_ne_none _, ?_⟩
    rw [hm, if_pos hkept]
    rfl

end Manager

theorem ReloadLoop.load_keeps (l : ReloadLoop σ C) (config : GatewayConfig) :
    let result := (l.manager.load config.filters
      (l.manager.notePolicy config.reload.policy l.world)).1
    (l.load config).isRunning = l.isRunning ∧
      ((∀ report, result ≠ some (.ok report)) → (l.load config).manager = l.manager) := by
  intro result
  refine ⟨rfl, ?_⟩
  intro hfailed
  rcases l.manager.load_cases config.filters
      (l.manager.notePolicy config.reload.policy l.world) with
    ⟨_, _, hm⟩ | ⟨_, _, _, _, hm⟩ | ⟨_, _, _, hresult, _⟩
  · exact hm
  · exact hm
  · exact absurd hresult (hfailed _)

namespace Runtime

theorem start_eq_error_iff (path : String) (file : FileState) (registry : Registry σ C)
    (w : World σ) (e : ConfigError) :
    (start path file registry w).1 = some (.error e) ↔ loadConfig file = .error e := by
  rcases htext : file.text with cause | text
  · simp [start, loadConfig, htext]
  rcases hparse : parseConfig text with cause | config
  · simp [start, loadConfig, htext, hparse]
  · simp [start, loadConfig, htext, hparse]

/-- What a valid file comes to is settled by what its filters come to when they are built. -/
theorem start_of_config (path : String) (registry : Registry σ C) (w : World σ) {file : FileState}
    {config : GatewayConfig} (hconfig : loadConfig file = .ok config) :
    ((registry.build config.filters w).1 = none → (start path file registry w).1 = none) ∧
    ∀ b, (registry.build config.filters w).1 = some b →
      ∃ r, (start path file registry w).1 = some (.ok r) ∧ r.manager.registry = registry ∧
        r.manager.policy = config.reload.policy ∧ r.isWatching = config.reload.watch ∧
        r.manager.active =
          if b.failures = [] ∨ config.reload.policy = .skip then ⟨1, b.filters⟩ else {} := by
  obtain ⟨text, htext, hparse⟩ := loadConfig_eq_ok hconfig
  let m : Manager σ C := { registry, policy := config.reload.policy }
  let w₁ := w.log
    (.configLoaded path config.filters.length config.reload.policy config.reload.watch)
  have hquiet : w₁.quiet = w.quiet := rfl
  have hcases := start_cases path registry w htext hparse
  rw [← registry.build_congr config.filters hquiet]
  constructor
  · intro hnone
    have hload : (m.load config.filters w₁).1 = none := (Manager.load_of_panic hnone).1
    rcases hcases with ⟨_, hstart⟩ | ⟨hloaded, _⟩
    · exact hstart
    · exact absurd hload hloaded
  · intro b hb
    obtain ⟨hload, hactive⟩ := Manager.load_first registry config.reload.policy hb
    obtain ⟨hregistry, hpolicy⟩ := m.load_frame config.filters w₁
    rcases hcases with ⟨hpanic, _⟩ | ⟨_, w₂, hstart⟩
    · exact absurd hpanic hload
    · refine ⟨_, hstart, ?_, ?_, isWatching_serve path text config.reload.watch _ w₂, ?_⟩
      · rw [manager_serve]
        exact hregistry
      · rw [manager_serve]
        exact hpolicy
      · rw [manager_serve]
        exact hactive

/-- A gateway reports an error exactly when its file has no valid configuration. With a valid one it
starts under the policy of the file, watches the file if the file says so, and its chain is the
first one with all filters that were built, or the empty one if the policy is to reject a list with
failures. Only a plugin that panics keeps it from starting: there is no result then, while a reload
loop goes on with the same chain after any load that publishes nothing. -/
theorem start_outcome (path : String) (file : FileState) (registry : Registry σ C) (w : World σ) :
    (∀ e, (start path file registry w).1 = some (.error e) ↔ loadConfig file = .error e) ∧
    (∀ config, loadConfig file = .ok config →
      ((start path file registry w).1 = none ↔ none ∈ registry.attempts 0 config.filters w) ∧
      (none ∉ registry.attempts 0 config.filters w →
        ∃ r b, (start path file registry w).1 = some (.ok r) ∧
          (registry.build config.filters w).1 = some b ∧ r.manager.registry = registry ∧
          r.manager.policy = config.reload.policy ∧ r.isWatching = config.reload.watch ∧
          r.manager.active =
            if b.failures = [] ∨ config.reload.policy = .skip then ⟨1, b.filters⟩ else {})) ∧
    ∀ (l : ReloadLoop σ C) (config : GatewayConfig),
      let result := (l.manager.load config.filters
        (l.manager.notePolicy config.reload.policy l.world)).1
      (l.load config).isRunning = l.isRunning ∧
        ((∀ report, result ≠ some (.ok report)) → (l.load config).manager = l.manager) := by
  refine ⟨start_eq_error_iff path file registry w, ?_, ReloadLoop.load_keeps⟩
  intro config hconfig
  obtain ⟨hpanicked, hbuilt⟩ := start_of_config path registry w hconfig
  have hattempts : (registry.build config.filters w).1 = none ↔
      none ∈ registry.attempts 0 config.filters w :=
    registry.buildFrom_eq_none_iff 0 config.filters w
  rcases hb : (registry.build config.filters w).1 with _ | b
  · have hpanic := hattempts.mp hb
    exact ⟨iff_of_true (hpanicked hb) hpanic, fun hcalm => absurd hpanic hcalm⟩
  · have hcalm : none ∉ registry.attempts 0 config.filters w := by
      rw [← hattempts, hb]
      exact Option.some_ne_none b
    obtain ⟨r, hstart, hrest⟩ := hbuilt b hb
    refine ⟨iff_of_false ?_ hcalm, fun _ => ⟨r, b, hstart, rfl, hrest⟩⟩
    rw [hstart]
    exact Option.some_ne_none _

def reducedText : String :=
  "[reload]\npolicy = \"skip\"\n[[filters]]\nname = \"limit\"\n" ++
    "[[filters]]\nname = \"absent\"\n"

theorem start_outcome_of_reduced :
    let registry := Catalogue.registryOf [("limit", "limit")]
    let world : World Calls := ⟨[], 0, [], .zero⟩
    let file := FileState.bytes reducedText.toByteArray
    ∃ r, (start "filters.toml" file registry world).1 = some (.ok r) ∧
      r.manager.policy = .skip ∧ r.isWatching = true ∧ r.manager.generation = 1 ∧
      r.manager.active.names = ["limit"] := by
  intro registry world file
  have hchecked : (parseConfig reducedText).toOption.any (fun config =>
      config.reload == ⟨.skip, true, 2⟩ &&
        (registry.attempts 0 config.filters world).all Option.isSome &&
        (registry.build config.filters world).1.any fun b =>
          b.filters.map LoadedFilter.name == ["limit"]) = true := by
    decide +kernel
  rcases hparse : parseConfig reducedText with e | config <;> rw [hparse] at hchecked
  · cases hchecked
  have hconfig : loadConfig file = .ok config := loadConfig_toByteArray hparse
  obtain ⟨⟨hreload, hall⟩, hnames⟩ : (config.reload = ⟨.skip, true, 2⟩ ∧
      (registry.attempts 0 config.filters world).all Option.isSome = true) ∧
      (registry.build config.filters world).1.any (fun b =>
        b.filters.map LoadedFilter.name == ["limit"]) = true := by
    simpa [Except.toOption] using hchecked
  have hcalm : none ∉ registry.attempts 0 config.filters world := none_notMem_of_all_isSome hall
  obtain ⟨r, b, hstart, hb, _, hpolicy, hwatch, hactive⟩ :=
    ((start_outcome "filters.toml" file registry world).2.1 config hconfig).2 hcalm
  rw [hreload] at hpolicy hwatch hactive
  rw [if_pos (Or.inr rfl)] at hactive
  refine ⟨r, hstart, hpolicy, hwatch, ?_, ?_⟩
  · rw [Manager.generation, hactive]
  · rw [Chain.names, hactive]
    simpa [hb] using hnames

def panickingText : String :=
  "[reload]\nwatch = false\n[[filters]]\nname = \"panics\"\n"

theorem start_panicked :
    ¬ ∀ (path : String) (file : FileState) (registry : Registry Calls Setup) (w : World Calls)
      (config : GatewayConfig), loadConfig file = .ok config →
      ∃ r, (start path file registry w).1 = some (.ok r) := by
  intro hclaim
  let registry := Catalogue.registryOf [("panics", "panics")]
  let world : World Calls := ⟨[], 0, [], .zero⟩
  have hchecked : (parseConfig panickingText).toOption.any (fun config =>
      (registry.build config.filters world).1.isNone) = true := by
    decide +kernel
  rcases hparse : parseConfig panickingText with e | config <;> rw [hparse] at hchecked
  · cases hchecked
  have hpanic : (registry.build config.filters world).1 = none :=
    Option.isNone_iff_eq_none.mp hchecked
  have hconfig := loadConfig_toByteArray hparse
  obtain ⟨r, hstart⟩ := hclaim "filters.toml" _ registry world config hconfig
  have hnone := (start_of_config "filters.toml" registry world hconfig).1 hpanic
  exact Option.some_ne_none _ (hstart.symm.trans hnone)

end Runtime

end FilterGateway
