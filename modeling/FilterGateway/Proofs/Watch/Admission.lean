import FilterGateway.Proofs.Config.Faults
import FilterGateway.Proofs.Loop.Schedule
import FilterGateway.Proofs.Watch.Startup

/-!
# Which configurations reach a gateway

A configuration reaches a gateway by its first file, or through its watcher and the queue of its
reload loop. On either way stands the validation, so whatever happens to the gateway, also while it
is shut down, each configuration that is sent or loaded is valid.
-/

namespace FilterGateway

variable {σ C : Type}

/-- What may happen to a gateway: a turn of its watcher or its reload loop, or the order to shut
down, which takes the watcher away and signals the loop. -/
inductive Incident where
  | turn (t : Turn)
  | shutdown

theorem Watcher.valid_of_emitted {w : Watcher} {o : Observation} {config : GatewayConfig}
    (h : (w.notice o.change o.file).1.emitted? = some config) : config.Valid := by
  rcases htext : o.configText? w.path with _ | text
  · rw [(notice_of_idle htext).1] at h
    cases h
  · obtain ⟨found, hparse, hemitted, _⟩ := notice_of_configText htext
    rw [hemitted] at h
    split at h
    · cases h
    · obtain rfl := Option.some.inj h
      exact (parseConfig_eq_ok_iff.mp hparse).2

namespace Running

/-- The gateway after an incident. -/
def undergo (g : Running σ C) : Incident → Running σ C
  | .turn t => g.turn t
  | .shutdown =>
    let s : Service σ C := { g.runtime.service with loop := g.runtime.service.loop.close }
    { g with runtime := { service := s.signal.2, watcher? := none } }

/-- The configuration that the watcher sends when it hears of a change. -/
def sentBy? (g : Running σ C) : Incident → Option GatewayConfig
  | .turn (.observe o) =>
    g.runtime.watcher?.bind fun watcher => (watcher.notice o.change o.file).1.emitted?
  | _ => none

/-- The configuration whose load an incident brings to its end. -/
def loadedBy? (g : Running σ C) : Incident → Option GatewayConfig
  | .turn .finish => g.loading?
  | _ => none

def sent (g : Running σ C) : List Incident → List GatewayConfig
  | [] => []
  | i :: incidents => (g.sentBy? i).toList ++ sent (g.undergo i) incidents

def loaded (g : Running σ C) : List Incident → List GatewayConfig
  | [] => []
  | i :: incidents => (g.loadedBy? i).toList ++ loaded (g.undergo i) incidents

theorem valid_of_sentBy? {g : Running σ C} {i : Incident} {config : GatewayConfig}
    (h : g.sentBy? i = some config) : config.Valid := by
  cases i with
  | shutdown => cases h
  | turn t =>
    cases t with
    | observe o =>
      obtain ⟨watcher, _, hemitted⟩ := Option.bind_eq_some_iff.mp h
      exact Watcher.valid_of_emitted hemitted
    | select branch => cases h
    | finish => cases h

theorem mem_queue_notice {r : Runtime σ C} {o : Observation} {config : GatewayConfig}
    (h : config ∈ (r.notice o.change o.file).service.loop.queue) :
    config ∈ r.service.loop.queue ∨
      sentBy? { runtime := r } (.turn (.observe o)) = some config := by
  rcases hwatcher : r.watcher? with _ | watcher
  · left
    simpa [Runtime.notice, hwatcher] using h
  · rcases hemitted : (watcher.notice o.change o.file).1.emitted? with _ | found
    · left
      simpa [Runtime.notice, hwatcher, hemitted, ReloadLoop.foldl_log] using h
    · let logged := (watcher.notice o.change o.file).1.events.foldl ReloadLoop.log r.service.loop
      have hqueue : logged.queue = r.service.loop.queue := by simp [logged, ReloadLoop.foldl_log]
      -- What the loop does not take is only logged.
      rcases logged.send_cases found with ⟨_, _, hsend⟩ | ⟨_, hsend⟩ <;>
        simp only [Runtime.notice, hwatcher, hemitted, logged, hsend] at h
      · rcases List.mem_append.mp h with hbefore | hnew
        · exact Or.inl (hqueue ▸ hbefore)
        · right
          obtain rfl := List.mem_singleton.mp hnew
          simp [sentBy?, hwatcher, hemitted]
      · exact Or.inl (hqueue ▸ h)

theorem mem_pending_undergo {g : Running σ C} {i : Incident} {config : GatewayConfig}
    (h : config ∈ (g.undergo i).pending) :
    config ∈ g.pending ∨ g.sentBy? i = some config := by
  obtain ⟨r, loading?⟩ := g
  cases i with
  | shutdown =>
    left
    have hqueue : (undergo ⟨r, loading?⟩ .shutdown).runtime.service.loop.queue =
        r.service.loop.queue := by
      let s : Service σ C := { r.service with loop := r.service.loop.close }
      have hundergo : (undergo ⟨r, loading?⟩ .shutdown).runtime.service = s.signal.2 := rfl
      rw [hundergo]
      rcases s.signal_cases with ⟨_, hsignal⟩ | ⟨_, _, hsignal⟩ <;> rw [hsignal] <;> rfl
    rw [pending, hqueue] at h
    exact h
  | turn t =>
    cases t with
    | observe o =>
      have hundergo : undergo ⟨r, loading?⟩ (.turn (.observe o)) =
          ⟨r.notice o.change o.file, loading?⟩ := rfl
      rw [hundergo, pending, List.mem_append] at h
      rcases h with hloading | hqueue
      · exact Or.inl (List.mem_append_left _ hloading)
      · exact (mem_queue_notice hqueue).imp (List.mem_append_right _) id
    | select branch =>
      left
      rcases loading? with _ | loading
      · have hundergo : undergo ⟨r, none⟩ (.turn (.select branch)) =
            ⟨r.withLoop (r.service.loop.select branch).2, (r.service.loop.select branch).1⟩ := rfl
        rw [hundergo] at h
        rcases r.service.loop.select_cases branch with hselect |
          ⟨taken, queue, _, _, hqueue, hselect⟩ | ⟨_, _, _, _, hselect⟩ | ⟨_, _, _, hselect⟩ <;>
          rw [hselect] at h
        · exact h
        · simpa [pending, Runtime.withLoop, hqueue] using h
        · exact h
        · exact h
      · exact h
    | finish =>
      left
      rcases loading? with _ | loading
      · exact h
      · exact List.mem_append_right _ h

theorem mem_pending_of_loadedBy? {g : Running σ C} {i : Incident} {config : GatewayConfig}
    (h : g.loadedBy? i = some config) : config ∈ g.pending := by
  cases i with
  | shutdown => cases h
  | turn t =>
    cases t with
    | finish =>
      refine List.mem_append_left _ ?_
      rw [Option.mem_toList]
      exact h
    | observe o => cases h
    | select branch => cases h

/-- If all that waits is valid, then so is all that is sent and loaded later. -/
theorem valid_of_pending {g : Running σ C} (h : ∀ config ∈ g.pending, config.Valid)
    (incidents : List Incident) :
    (∀ config ∈ g.sent incidents, config.Valid) ∧ ∀ config ∈ g.loaded incidents, config.Valid := by
  induction incidents generalizing g with
  | nil => simp [sent, loaded]
  | cons i incidents ih =>
    have hnext : ∀ config ∈ (g.undergo i).pending, config.Valid := by
      intro config hmem
      exact (mem_pending_undergo hmem).elim (h config) valid_of_sentBy?
    obtain ⟨hsent, hloaded⟩ := ih hnext
    constructor
    · intro config hmem
      rcases List.mem_append.mp hmem with hnow | hlater
      · exact valid_of_sentBy? (Option.mem_toList.mp hnow)
      · exact hsent config hlater
    · intro config hmem
      rcases List.mem_append.mp hmem with hnow | hlater
      · exact h config (mem_pending_of_loadedBy? (Option.mem_toList.mp hnow))
      · exact hloaded config hlater

end Running

namespace Runtime

theorem start_of_error {file : FileState} {e : ConfigError} (h : loadConfig file = .error e)
    (path : String) (registry : Registry σ C) (w : World σ) :
    start path file registry w = (some (.error e), w) := by
  rcases htext : file.text with cause | text
  · obtain rfl : .io cause = e := by simpa [loadConfig, htext] using h
    simp [start, htext]
  · have hparse : parseConfig text = .error e := by simpa [loadConfig, htext] using h
    simp [start, htext, hparse]

theorem start_of_ok {file : FileState} {config : GatewayConfig} (h : loadConfig file = .ok config)
    (path : String) (registry : Registry σ C) (w : World σ) :
    ∃ text, file.text = .ok text ∧ start path file registry w =
      ((launch path text config registry w).1.map .ok, (launch path text config registry w).2) := by
  obtain ⟨text, htext, hparse⟩ := loadConfig_eq_ok h
  exact ⟨text, htext, by simp [start, htext, hparse]⟩

end Runtime

namespace Running

theorem pending_of_start {registry : Registry σ C} {path : String} {file : FileState}
    {w : World σ} {r : Runtime σ C}
    (hstart : (Runtime.start path file registry w).1 = some (.ok r)) :
    pending { runtime := r } = [] := by
  rcases htext : file.text with e | text
  · simp [Runtime.start, htext] at hstart
  rcases hparse : parseConfig text with e | config
  · simp [Runtime.start, htext, hparse] at hstart
  rcases Runtime.start_cases path registry w htext hparse with ⟨_, hnone⟩ | ⟨_, w₂, hstarted⟩
  · exact absurd (hnone.symm.trans hstart) (Option.some_ne_none _).symm
  · obtain rfl := Except.ok.inj (Option.some.inj (hstarted.symm.trans hstart))
    cases config.reload.watch <;> rfl

/-- A text has a configuration exactly when it can be read, each filter in it has a name that is not
blank, and the poll interval is positive. Of what can be read but is not valid all faults are told,
each once: the positions of the blank names in increasing order, then the interval if it is zero.
So a gateway that starts without a valid configuration loads nothing, one that starts with it
launches just that one, and each configuration that its watcher sends and that its loop loads is
valid. -/
theorem valid_of_admission (registry : Registry σ C) (path : String) (file : FileState)
    (w : World σ) :
    (∀ (text : String) (config : GatewayConfig),
      (parseConfig text = .ok config ↔ GatewayConfig.read text = .ok config ∧
        (∀ d ∈ config.filters, ∃ c ∈ d.name.toList, Text.isSpaceChar c = false) ∧
        0 < config.reload.pollInterval) ∧
      (GatewayConfig.read text = .ok config → (∀ valid, parseConfig text ≠ .ok valid) →
        ∃ positions : List Nat, positions.Pairwise (· < ·) ∧
          (∀ i, i ∈ positions ↔ ∃ d, config.filters[i]? = some d ∧
            ∀ c ∈ d.name.toList, Text.isSpaceChar c = true) ∧
          parseConfig text = .error (.validation (positions.map .emptyFilterName ++
            if config.reload.pollInterval = 0 then [.zeroPollInterval] else [])))) ∧
    (∀ e, loadConfig file = .error e → Runtime.start path file registry w = (some (.error e), w)) ∧
    (∀ config, loadConfig file = .ok config → config.Valid ∧
      ∃ text, file.text = .ok text ∧ Runtime.start path file registry w =
        ((Runtime.launch path text config registry w).1.map .ok,
          (Runtime.launch path text config registry w).2)) ∧
    ∀ r, (Runtime.start path file registry w).1 = some (.ok r) → ∀ incidents : List Incident,
      (∀ config ∈ sent { runtime := r } incidents, config.Valid) ∧
        ∀ config ∈ loaded { runtime := r } incidents, config.Valid := by
  refine ⟨fun text config => ⟨?_, ?_⟩, fun e he => Runtime.start_of_error he path registry w,
    ?_, ?_⟩
  · rw [parseConfig_eq_ok_iff]
    exact and_congr_right fun _ => ⟨fun h => ⟨h.named, h.rests⟩, fun h => ⟨h.1, h.2⟩⟩
  · intro hread hinvalid
    have hnot : ¬config.Valid := fun hvalid =>
      hinvalid config (parseConfig_eq_ok_iff.mpr ⟨hread, hvalid⟩)
    refine ⟨config.blankPositions, config.pairwise_blankPositions,
      fun i => config.mem_blankPositions, ?_⟩
    rw [parseConfig_of_not_valid hread hnot, config.faults_eq]
  · intro config hconfig
    obtain ⟨text, _, hparse⟩ := loadConfig_eq_ok hconfig
    exact ⟨(parseConfig_eq_ok_iff.mp hparse).2, Runtime.start_of_ok hconfig path registry w⟩
  · intro r hstart incidents
    refine valid_of_pending ?_ incidents
    rw [pending_of_start hstart]
    intro config hmem
    cases hmem

end Running

end FilterGateway
