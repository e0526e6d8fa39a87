import FilterGateway.Proofs.Watch.Interleaving

/-!
# Hot reload and restart

A gateway that has started from a file and watches it follows the text of the file. So once no
update waits, its chain is the one of a gateway that starts from the text that was read last,
provided that this text is valid and all its filters can be built.
-/

namespace FilterGateway

variable {σ C : Type}

namespace Runtime

variable {registry : Registry σ C} {path text : String} {file : FileState} {config : GatewayConfig}
  {w : World σ}

@[simp] theorem manager_serve (path text : String) (watch : Bool) (m : Manager σ C) (w : World σ) :
    (serve path text watch m w).manager = m := by
  cases watch <;> rfl

@[simp] theorem isWatching_serve (path text : String) (watch : Bool) (m : Manager σ C)
    (w : World σ) : (serve path text watch m w).isWatching = watch := by
  cases watch <;> rfl

/-- A gateway starts with a load of what its file configures, unless a plugin panics. -/
theorem start_cases (path : String) (registry : Registry σ C) (w : World σ)
    (htext : file.text = .ok text) (hparse : parseConfig text = .ok config) :
    let m : Manager σ C := { registry, policy := config.reload.policy }
    let w₁ := w.log
      (.configLoaded path config.filters.length config.reload.policy config.reload.watch)
    ((m.load config.filters w₁).1 = none ∧ (start path file registry w).1 = none) ∨
    ((m.load config.filters w₁).1 ≠ none ∧ ∃ w₂, (start path file registry w).1 =
      some (.ok (serve path text config.reload.watch (m.load config.filters w₁).2.1 w₂))) := by
  intro m w₁
  rcases hload : m.load config.filters w₁ with ⟨_ | result, m', w'⟩
  · left
    simp [start, launch, htext, hparse, hload, m, w₁]
  · right
    refine ⟨by simp, (initialEvents result).foldl World.log w', ?_⟩
    simp [start, launch, htext, hparse, hload, m, w₁]

theorem serves_of_start (hsteady : registry.Steady) (htext : file.text = .ok text)
    (hparse : parseConfig text = .ok config) {r : Runtime σ C}
    (hstart : (start path file registry w).1 = some (.ok r)) :
    r.manager.registry = registry ∧ r.manager.Serves config.filters := by
  obtain ⟨_, hnone⟩ | ⟨_, w₂, hstarted⟩ := start_cases path registry w htext hparse
  · rw [hnone] at hstart
    exact absurd hstart (Option.some_ne_none _).symm
  · obtain rfl := Except.ok.inj (Option.some.inj (hstarted.symm.trans hstart))
    rw [manager_serve]
    exact ⟨(Manager.load_frame _ config.filters _).1,
      Manager.load_serves hsteady config.filters _⟩

theorem start_of_builds (path : String) (w : World σ) (hsteady : registry.Steady)
    (htext : file.text = .ok text) (hparse : parseConfig text = .ok config)
    (hbuilds : ∀ d ∈ config.filters, registry.Builds d) :
    ∃ r, (start path file registry w).1 = some (.ok r) ∧ r.isWatching = config.reload.watch := by
  obtain ⟨hpanic, _⟩ | ⟨_, w₂, hstarted⟩ := start_cases path registry w htext hparse
  · exact absurd hpanic (Manager.load_of_builds hsteady hbuilds _)
  · exact ⟨_, hstarted, isWatching_serve path text config.reload.watch _ w₂⟩

theorem follows_of_start (hsteady : registry.Steady) {r : Runtime σ C}
    (hstart : (start path file registry w).1 = some (.ok r)) (hwatch : r.isWatching = true) :
    ∃ text, file.text = .ok text ∧ Running.pending { runtime := r } = [] ∧
      Running.Follows { runtime := r } registry ⟨path, some text⟩ := by
  rcases htext : file.text with e | text
  · simp [start, htext] at hstart
  rcases hparse : parseConfig text with e | config
  · simp [start, htext, hparse] at hstart
  obtain ⟨hregistry, hserves⟩ := serves_of_start hsteady htext hparse hstart
  obtain ⟨_, hnone⟩ | ⟨_, w₂, hstarted⟩ := start_cases path registry w htext hparse
  · rw [hnone] at hstart
    exact absurd hstart (Option.some_ne_none _).symm
  · obtain rfl := Except.ok.inj (Option.some.inj (hstarted.symm.trans hstart))
    cases hon : config.reload.watch with
    | false => simp [hon] at hwatch
    | true =>
      rw [hon] at hregistry hserves
      exact ⟨text, rfl, rfl, rfl, rfl, rfl, rfl, hregistry, text, config, rfl, hparse,
        Or.inr ⟨rfl, hserves⟩⟩

end Runtime

namespace Running

/-- What was read last from the file at `path`, or what it held at the start. -/
def lastReading (path : String) (file : FileState) (turns : List Turn) : Except ReadError String :=
  ((turns.flatMap Turn.observations).filterMap (Observation.reading? path)).getLast?.getD file.text

/-- Hot reload agrees with a restart: whatever was observed and in whatever order the watcher and
the loop took turns, once no update waits, a gateway that is started from the text that was read
last has a chain with the same names and the same configurations, if the text is valid and its
filters can be built. -/
theorem profile_eq_restart {registry : Registry σ C} (hsteady : registry.Steady) {path : String}
    {file : FileState} {w : World σ} {r : Runtime σ C}
    (hstart : (Runtime.start path file registry w).1 = some (.ok r)) (hwatch : r.isWatching = true)
    (turns : List Turn) (hdrained : (follow { runtime := r } turns).pending = [])
    {text : String} {config : GatewayConfig} (hlast : lastReading path file turns = .ok text)
    (hblank : Text.isBlank text = false) (hparse : parseConfig text = .ok config)
    (hbuilds : ∀ d ∈ config.filters, registry.Builds d)
    {file' : FileState} (htext : file'.text = .ok text) (w' : World σ) :
    ∃ fresh, (Runtime.start path file' registry w').1 = some (.ok fresh) ∧
      0 < fresh.manager.generation ∧
      profile (follow { runtime := r } turns).runtime.manager.active.filters =
        profile fresh.manager.active.filters := by
  obtain ⟨first, hfirst, _, hfollows⟩ := Runtime.follows_of_start hsteady hstart hwatch
  have hend := hfollows.follow hsteady turns
  obtain ⟨found, latest, hbaseline, hfound, hlatest⟩ := hend.latest
  have hserves : (follow { runtime := r } turns).runtime.manager.Serves latest.filters := by
    rcases hlatest with hwaits | ⟨_, hserves⟩
    · rw [hdrained] at hwaits
      exact absurd hwaits (by simp)
    · exact hserves
  -- The watcher remembers what was read last, and its configuration is the one that is served.
  have hsame : found = text := by
    rw [lastReading, hfirst] at hlast
    have hvalid := (isConfigText_iff text).mpr ⟨hblank, config, hparse⟩
    have hremembered := Watcher.baseline?_after (w := ⟨path, some first⟩) rfl hlast hvalid
    rw [hremembered] at hbaseline
    exact (Option.some.inj hbaseline).symm
  subst hsame
  obtain rfl : config = latest := Except.ok.inj (hparse.symm.trans hfound)
  obtain ⟨fresh, hfresh, _⟩ := Runtime.start_of_builds path w' hsteady htext hparse hbuilds
  obtain ⟨hregistry, hfreshServes⟩ := Runtime.serves_of_start hsteady htext hparse hfresh
  refine ⟨fresh, hfresh, (hfreshServes (hregistry ▸ hbuilds)).1, ?_⟩
  exact hserves.profile_eq hfreshServes (hend.registry.trans hregistry.symm)
    (hend.registry.symm ▸ hbuilds) w'

def edit (path text : String) : Turn :=
  .observe ⟨⟨.modify, [path]⟩, .bytes text.toByteArray⟩

def limitText : String :=
  "[[filters]]\nname = \"limit\"\n[filters.options]\nlimit = 5\n"

def tagText : String :=
  "[reload]\npolicy = \"skip\"\n[[filters]]\nname = \"tag\"\n"

/-- An invalid text, and another text that is taken back while it is loaded. -/
def takenBack : List Turn :=
  [edit "filters.toml" "filters", edit "filters.toml" tagText, .select .updates,
    edit "filters.toml" limitText]

theorem lastReading_takenBack (file : FileState) (n : Nat) :
    lastReading "filters.toml" file (takenBack ++ drain n) = .ok limitText := by
  simp [lastReading, takenBack, edit, Turn.observations, Observation.reading?,
    Change.concerns]

theorem profile_eq_restart_of_takenBack :
    let registry := Catalogue.registryOf [("limit", "limit"), ("tag", "tag")]
    let world : World Calls := ⟨[], 0, [], .zero⟩
    let file := FileState.bytes limitText.toByteArray
    ∃ r fresh, (Runtime.start "filters.toml" file registry world).1 = some (.ok r) ∧
      (Runtime.start "filters.toml" file registry world).1 = some (.ok fresh) ∧
      0 < fresh.manager.generation ∧
      profile (follow { runtime := r } (takenBack ++ drain 4)).runtime.manager.active.filters =
        profile fresh.manager.active.filters := by
  intro registry world file
  have hsteady : registry.Steady := Catalogue.registryOf_steady (by decide)
  have hchecked : (parseConfig limitText).toOption.any (fun config =>
      config.reload.watch && config.filters.all fun d =>
        (registry.apply d.name d.options world).1.any Except.isOk) = true := by
    decide +kernel
  rcases hparse : parseConfig limitText with e | config <;> rw [hparse] at hchecked
  · cases hchecked
  obtain ⟨hwatch, hall⟩ := Bool.and_eq_true_iff.mp hchecked
  have hbuilds : ∀ d ∈ config.filters, registry.Builds d := by
    intro d hd
    exact .of_isOk (List.all_eq_true.mp hall d hd)
  have htext : file.text = .ok limitText := FileState.text_toByteArray limitText
  obtain ⟨r, hstart, hwatching⟩ :=
    Runtime.start_of_builds "filters.toml" world hsteady htext hparse hbuilds
  have hwatches : r.isWatching = true := hwatching.trans hwatch
  obtain ⟨_, _, hpending, hfollows⟩ := Runtime.follows_of_start hsteady hstart hwatches
  have hdrained : (follow { runtime := r } (takenBack ++ drain 4)).pending = [] := by
    have hdrain := hfollows.follow_drain hsteady takenBack
    rw [hpending] at hdrain
    exact hdrain
  obtain ⟨fresh, hfresh, hgeneration, hprofile⟩ :=
    profile_eq_restart hsteady hstart hwatches _ hdrained (lastReading_takenBack file 4)
      (by decide +kernel) hparse hbuilds htext world
  exact ⟨r, fresh, hstart, hfresh, hgeneration, hprofile⟩

end Running

end FilterGateway
