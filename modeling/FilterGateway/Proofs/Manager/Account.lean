import FilterGateway.Catalogue.Plugins
import FilterGateway.Proofs.Build.Calls
import FilterGateway.Proofs.Manager.Generation

/-!
# What logs and metrics tell about loads

The result of a load can be read off the log and the metrics. During a load each failed descriptor
is logged and counted once, in the order of the list; then one event closes the load with its
outcome. So the counters and the gauge of a whole history agree with the results of its loads and
with the chain in force.
-/

namespace FilterGateway

variable {σ C : Type}

/-! ### Results and what is told about them -/

def LoadOutcome.ofResult : Except LoadError LoadReport → LoadOutcome
  | .ok report => if report.skipped.isEmpty then .published else .reduced
  | .error _ => .rejected

/-- The descriptors that failed in a load. -/
def failuresOf : Except LoadError LoadReport → List FilterFailure
  | .ok report => report.skipped
  | .error e => e.failures

/-- The event that closes a load with this result, where `generation` is the one in force then. -/
def closingEvent (generation : Nat) : Except LoadError LoadReport → Event
  | .ok report =>
    if report.skipped.isEmpty then .chainReloaded report.generation report.loaded
    else .chainReduced report.generation report.loaded report.skipped.length
  | .error e => .loadRejected e.failures.length e.total generation

def Event.isBuildFailure (e : Event) : Bool :=
  e.message == "Filter build failed"

/-- How many of the failures are of a kind. -/
def countKind (kind : FailureKind) (failures : List FilterFailure) : Nat :=
  failures.countP fun failure => failure.error.kind = kind

@[simp] theorem Event.isBuildFailure_buildFailed (failure : FilterFailure) :
    (Event.buildFailed failure).isBuildFailure = true :=
  beq_self_eq_true "Filter build failed"

@[simp] theorem Event.isBuildFailure_filterInitialized (name : String) (options : Nat) :
    (Event.filterInitialized name options).isBuildFailure = false := by
  have hne : ("Filter initialized" == "Filter build failed") = false := by simp
  exact hne

theorem LoadOutcome.countP_ofResult (results : List (Except LoadError LoadReport)) :
    results.countP (fun result => .ofResult result = published) +
        results.countP (fun result => .ofResult result = reduced) +
        results.countP (fun result => .ofResult result = rejected) = results.length := by
  induction results with
  | nil => rfl
  | cons result results ih =>
    simp only [List.countP_cons, List.length_cons, ← ih]
    cases ofResult result <;> simp <;> omega

theorem countKind_append (kind : FailureKind) (failures failures' : List FilterFailure) :
    countKind kind (failures ++ failures') = countKind kind failures + countKind kind failures' :=
  List.countP_append

namespace Metrics

def countFailures (m : Metrics) (failures : List FilterFailure) : Metrics :=
  failures.foldl (fun m failure => m.countFailure failure.error.kind) m

/-- The metrics once a load has ended with this result. -/
def close (m : Metrics) (result : Except LoadError LoadReport) : Metrics :=
  match result with
  | .ok report => (m.countLoad (.ofResult result)).setChainLength report.loaded
  | .error _ => m.countLoad (.ofResult result)

theorem countFailures_append (m : Metrics) (failures failures' : List FilterFailure) :
    m.countFailures (failures ++ failures') = (m.countFailures failures).countFailures failures' :=
  List.foldl_append

@[simp] theorem loads_countFailures (m : Metrics) (failures : List FilterFailure) :
    (m.countFailures failures).loads = m.loads := by
  induction failures generalizing m with
  | nil => rfl
  | cons failure failures ih => exact ih (m.countFailure failure.error.kind)

@[simp] theorem chainLength?_countFailures (m : Metrics) (failures : List FilterFailure) :
    (m.countFailures failures).chainLength? = m.chainLength? := by
  induction failures generalizing m with
  | nil => rfl
  | cons failure failures ih => exact ih (m.countFailure failure.error.kind)

@[simp] theorem failures_countFailures (m : Metrics) (failures : List FilterFailure)
    (kind : FailureKind) :
    (m.countFailures failures).failures kind = m.failures kind + countKind kind failures := by
  induction failures generalizing m with
  | nil => rfl
  | cons failure failures ih =>
    rw [countFailures, List.foldl_cons, ← countFailures, ih, failures_countFailure, countKind,
      countKind, List.countP_cons]
    by_cases hkind : failure.error.kind = kind
    · simp [hkind]
      omega
    · simp [hkind, Ne.symm hkind]

@[simp] theorem loads_close (m : Metrics) (result : Except LoadError LoadReport) (o : LoadOutcome) :
    (m.close result).loads o = if o = .ofResult result then m.loads o + 1 else m.loads o := by
  cases result <;> rfl

@[simp] theorem failures_close (m : Metrics) (result : Except LoadError LoadReport) :
    (m.close result).failures = m.failures := by
  cases result <;> rfl

end Metrics

/-! ### During a build -/

/-- What happened to a world while these failures were reported: each was logged and counted once,
in order, and nothing else was counted. -/
structure World.Reported (w w' : World σ) (failures : List FilterFailure) : Prop where
  logged : ∃ events, w'.events = w.events ++ events ∧ (∀ e ∈ events, e.component = .builder) ∧
    events.filter Event.isBuildFailure = failures.map .buildFailed
  counted : w'.metrics = w.metrics.countFailures failures

namespace World.Reported

variable {w w' w'' : World σ}

theorem of_eq (hevents : w'.events = w.events) (hmetrics : w'.metrics = w.metrics) :
    w.Reported w' [] where
  logged := ⟨[], by simpa using hevents, by simp, rfl⟩
  counted := hmetrics

theorem trans {failures failures' : List FilterFailure} (h : w.Reported w' failures)
    (h' : w'.Reported w'' failures') : w.Reported w'' (failures ++ failures') := by
  obtain ⟨events, hevents, hbuilder, hfailed⟩ := h.logged
  obtain ⟨events', hevents', hbuilder', hfailed'⟩ := h'.logged
  refine ⟨⟨events ++ events', ?_, ?_, ?_⟩, ?_⟩
  · rw [hevents', hevents, List.append_assoc]
  · intro e he
    exact (List.mem_append.mp he).elim (hbuilder e) (hbuilder' e)
  · rw [List.filter_append, hfailed, hfailed', List.map_append]
  · rw [h'.counted, h.counted, Metrics.countFailures_append]

theorem initialized (w : World σ) (name : String) (options : Nat) :
    w.Reported (w.log (.filterInitialized name options)) [] where
  logged := ⟨[.filterInitialized name options], rfl, by simp [Event.component], by simp⟩
  counted := rfl

theorem failed (w : World σ) (failure : FilterFailure) :
    w.Reported (Registry.fail failure w) [failure] where
  logged := ⟨[.buildFailed failure], rfl, by simp [Event.component], by simp⟩
  counted := rfl

end World.Reported

namespace Plugin

variable (plugin : Plugin σ C) (name : String) (options : Fields) (made : Instance C) (w : World σ)

theorem make_reported : w.Reported (plugin.make w).2 [] := by
  rcases h : plugin.create w.plugins with ⟨fresh | message | _, s⟩ <;>
    exact .of_eq (by simp [make, h]) (by simp [make, h])

theorem finish_reported : w.Reported (plugin.finish name options made w).2 [] := by
  rcases h : plugin.init made.config w.plugins with ⟨ready | message | _, s⟩
  · have hstate : w.Reported { w with plugins := s } [] := .of_eq rfl rfl
    simp only [finish, h]
    exact hstate.trans (.initialized _ name options.length)
  · exact .of_eq (by simp [finish, h]) (by simp [finish, h])
  · exact .of_eq (by simp [finish, h]) (by simp [finish, h])

theorem configure_reported : w.Reported (plugin.configure name options made w).2 [] := by
  rcases h : plugin.bind options made.config w.plugins with ⟨bound | message | _, s⟩
  · have hstate : w.Reported { w with plugins := s } [] := .of_eq rfl rfl
    simp only [configure, h]
    exact hstate.trans (plugin.finish_reported name options { made with config := bound } _)
  · exact .of_eq (by simp [configure, h]) (by simp [configure, h])
  · exact .of_eq (by simp [configure, h]) (by simp [configure, h])

end Plugin

namespace Registry

variable (r : Registry σ C)

theorem apply_reported (name : String) (options : Fields) (w : World σ) :
    w.Reported (r.apply name options w).2 [] := by
  rcases hresolve : r.resolve name with error | plugin
  · exact .of_eq (by simp [apply, hresolve]) (by simp [apply, hresolve])
  · have hmake := plugin.make_reported w
    rcases h : plugin.make w with ⟨made | message | _, w'⟩ <;> rw [h] at hmake <;>
      simp only [apply, hresolve, h]
    · exact hmake.trans (plugin.configure_reported name options made w')
    · exact hmake
    · exact hmake

theorem filterName_of_apply {name : String} {options : Fields} {w : World σ} {error : FilterError}
    (h : (r.apply name options w).1 = some (.error error)) : error.filterName = name := by
  obtain ⟨_, _, hattempted⟩ := r.apply_traced ⟨name, options⟩ w []
  simp only [h] at hattempted
  exact (hattempted.error rfl).1

theorem buildFrom_reported {index : Nat} {ds : List Descriptor} {w : World σ} {b : Built C}
    (hb : (r.buildFrom index ds w).1 = some b) :
    w.Reported (r.buildFrom index ds w).2 b.failures := by
  induction ds generalizing index w b with
  | nil =>
    obtain rfl : {} = b := Option.some.inj hb
    exact .of_eq rfl rfl
  | cons d ds ih =>
    have hfirst := r.apply_reported d.name d.options w
    rcases buildFrom_cons_eq_some hb with
      ⟨error, w', b', h, hb', rfl⟩ | ⟨filter, w', b', h, hb', rfl⟩ <;> rw [h] at hfirst
    · -- The stages of the filter report nothing; its failure is reported before the rest.
      rw [buildFrom_cons_error h]
      exact (hfirst.trans (.failed w' ⟨index, error⟩)).trans (ih hb')
    · rw [buildFrom_cons_ok h]
      exact hfirst.trans (ih hb')

theorem buildFrom_failures_sublist {index : Nat} {ds : List Descriptor} {w : World σ} {b : Built C}
    (hb : (r.buildFrom index ds w).1 = some b) :
    (b.failures.map fun failure => (failure.error.filterName, failure.index)).Sublist
      ((ds.map Descriptor.name).zipIdx index) := by
  induction ds generalizing index w b with
  | nil =>
    obtain rfl : {} = b := Option.some.inj hb
    exact List.Sublist.refl []
  | cons d ds ih =>
    rw [List.map_cons, List.zipIdx_cons]
    rcases buildFrom_cons_eq_some hb with
      ⟨error, w', b', h, hb', rfl⟩ | ⟨filter, w', b', _, hb', rfl⟩
    · have hname : error.filterName = d.name := r.filterName_of_apply (by rw [h])
      rw [List.map_cons, hname]
      exact (ih hb').cons_cons _
    · exact (ih hb').cons _

end Registry

/-! ### During a load -/

/-- Whether a result is about this many descriptors and, if it has published a chain, about this
one. -/
def Chain.Shows (active : Chain C) (total : Nat) : Except LoadError LoadReport → Prop
  | .ok report => report.generation = active.generation ∧ report.loaded = active.filters.length
  | .error e => e.total = total

namespace Manager

variable (m : Manager σ C)

theorem settle_closes (total : Nat) (b : Built C) (w : World σ) :
    let settled := m.settle total b w
    failuresOf settled.1 = b.failures ∧
      settled.2.2.events = w.events ++ [closingEvent settled.2.1.generation settled.1] ∧
      settled.2.2.metrics = w.metrics.close settled.1 ∧
      settled.2.1.active.Shows total settled.1 := by
  cases hrejects : m.rejects b with
  | true =>
    simp [settle, hrejects, failuresOf, closingEvent, Metrics.close, LoadOutcome.ofResult,
      Chain.Shows]
  | false =>
    cases hcomplete : b.isComplete <;> have hskipped := hcomplete <;>
      rw [Built.isComplete] at hskipped <;>
      simp [settle, hrejects, hcomplete, hskipped, failuresOf, closingEvent, Metrics.close,
        LoadOutcome.ofResult, Chain.Shows, generation]

/-- A load reports its failures and is closed with its result. -/
theorem load_reported (ds : List Descriptor) (w : World σ)
    {result : Except LoadError LoadReport} (hresult : (m.load ds w).1 = some result) :
    (∃ w', w.Reported w' (failuresOf result) ∧
      (m.load ds w).2.2.events =
        w'.events ++ [closingEvent (m.load ds w).2.1.generation result] ∧
      (m.load ds w).2.2.metrics = w'.metrics.close result) ∧
    ((failuresOf result).map fun failure => (failure.error.filterName, failure.index)).Sublist
      (ds.map Descriptor.name).zipIdx ∧
    (m.load ds w).2.1.active.Shows ds.length result := by
  rcases hbuild : m.registry.buildFrom 0 ds w with ⟨_ | b, w'⟩
  · simp [load, Registry.build, hbuild] at hresult
  have hb : (m.registry.buildFrom 0 ds w).1 = some b := by rw [hbuild]
  have hreported := m.registry.buildFrom_reported hb
  have hsublist := m.registry.buildFrom_failures_sublist hb
  rw [hbuild] at hreported
  have hload : m.load ds w = (some (m.settle ds.length b w').1, (m.settle ds.length b w').2) := by
    rw [load, Registry.build, hbuild]
  obtain ⟨hfailures, hevents, hmetrics, hshows⟩ := m.settle_closes ds.length b w'
  rw [hload] at hresult ⊢
  obtain rfl := Option.some.inj hresult
  rw [hfailures]
  exact ⟨⟨w', hreported, hevents, hmetrics⟩, hsublist, hshows⟩

theorem active_load (ds : List Descriptor) (w : World σ)
    {result : Except LoadError LoadReport} (hresult : (m.load ds w).1 = some result) :
    match result with
    | .ok _ => (m.load ds w).2.1.generation = m.generation + 1
    | .error _ => (m.load ds w).2.1.active = m.active := by
  rcases m.load_cases ds w with ⟨_, hnone, _⟩ | ⟨b, _, _, hrejected, hm⟩ | ⟨b, _, _, hok, hm⟩
  · exact absurd (hnone.symm.trans hresult) (Option.some_ne_none _).symm
  · obtain rfl := Option.some.inj (hrejected.symm.trans hresult)
    simp [hm]
  · obtain rfl := Option.some.inj (hok.symm.trans hresult)
    simp [hm, generation]

end Manager

/-! ### During a history -/

def Operation.isLoad : Operation σ C → Bool
  | .load _ => true
  | _ => false

namespace Moment

def result? (m : Moment σ C) : Option (Except LoadError LoadReport) :=
  match m.answer with
  | .loaded result? => result?
  | _ => none

end Moment

/-- The counters and the gauge of a session whose loads had these results. -/
structure Session.Tallied (s : Session σ C) (results : List (Except LoadError LoadReport)) :
    Prop where
  generation : s.world.metrics.loads .published + s.world.metrics.loads .reduced =
    s.manager.generation
  loads : ∀ o, s.world.metrics.loads o = results.countP fun result => .ofResult result = o
  failures : ∀ kind, s.world.metrics.failures kind = countKind kind (results.flatMap failuresOf)
  length : s.world.metrics.chainLength? =
    if results.any Except.isOk then some s.manager.active.filters.length else none

namespace Session

theorem Tallied.initial (registry : Registry σ C) (policy : ReloadPolicy) {world : World σ}
    (hfresh : world.metrics = .zero) : (initial registry policy world).Tallied [] where
  generation := by simp [Session.initial, hfresh, Metrics.zero, Manager.generation]
  loads := by simp [Session.initial, hfresh, Metrics.zero]
  failures := by simp [Session.initial, hfresh, Metrics.zero, countKind]
  length := by simp [Session.initial, hfresh, Metrics.zero]

theorem Tallied.congr {s s' : Session σ C} {results : List (Except LoadError LoadReport)}
    (h : s.Tallied results) (hmetrics : s'.world.metrics = s.world.metrics)
    (hactive : s'.manager.active = s.manager.active) : s'.Tallied results where
  generation := by rw [hmetrics, Manager.generation, hactive, h.generation, Manager.generation]
  loads := by rw [hmetrics]; exact h.loads
  failures := by rw [hmetrics]; exact h.failures
  length := by rw [hmetrics, hactive, h.length]

theorem perform_frame (s : Session σ C) {op : Operation σ C} (hop : op.isLoad = false) :
    (s.moment op).result? = none ∧ (s.perform op).2.world.metrics = s.world.metrics ∧
      (s.perform op).2.manager.active = s.manager.active := by
  cases op with
  | register name plugin =>
    rcases h : s.manager.registry.register name plugin with e | r <;>
      simp [moment, perform, Moment.result?, Manager.register, Registry.enter, h]
  | apply name options =>
    exact ⟨rfl, (s.manager.registry.apply_reported name options s.world).counted, rfl⟩
  | load ds => cases hop

theorem Tallied.load {s : Session σ C} {results : List (Except LoadError LoadReport)}
    (h : s.Tallied results) {ds : List Descriptor} {result : Except LoadError LoadReport}
    (hresult : (s.manager.load ds s.world).1 = some result) :
    (s.perform (.load ds)).2.Tallied (results ++ [result]) := by
  obtain ⟨⟨w', hreported, _, hclosed⟩, _, hshows⟩ := s.manager.load_reported ds s.world hresult
  have hmetrics : (s.perform (.load ds)).2.world.metrics =
      (s.world.metrics.countFailures (failuresOf result)).close result := by
    rw [← hreported.counted]
    exact hclosed
  have hactive := s.manager.active_load ds s.world hresult
  have hmanager : (s.perform (.load ds)).2.manager = (s.manager.load ds s.world).2.1 := rfl
  refine ⟨?_, ?_, ?_, ?_⟩
  · rw [hmetrics, hmanager]
    cases result with
    | ok report =>
      -- One of the two counters of published chains goes up, whether filters were skipped or not.
      rw [hactive, ← h.generation]
      cases hskipped : report.skipped.isEmpty <;> simp [LoadOutcome.ofResult, hskipped] <;> omega
    | error e =>
      rw [Manager.generation, hactive, ← Manager.generation, ← h.generation]
      simp [LoadOutcome.ofResult]
  · intro o
    rw [hmetrics, List.countP_append, List.countP_singleton, ← h.loads o]
    by_cases ho : o = .ofResult result
    · simp [ho]
    · simp [ho, Ne.symm ho]
  · intro kind
    rw [hmetrics, List.flatMap_append, countKind_append, ← h.failures kind]
    simp
  · rw [hmetrics, hmanager]
    cases result with
    | ok report =>
      obtain ⟨_, hloaded⟩ := hshows
      simp [Metrics.close, Metrics.setChainLength, hloaded, Except.isOk, Except.toBool]
    | error e =>
      rw [hactive]
      simp [Metrics.close, Metrics.countLoad, h.length, Except.isOk, Except.toBool]

theorem isSome_result? (s : Session σ C) (op : Operation σ C)
    (hcalm : none ∉ (s.moment op).attempts) : (s.moment op).result?.isSome = op.isLoad := by
  cases op with
  | register name plugin => rfl
  | apply name options => rfl
  | load ds =>
    obtain ⟨hpanic, _⟩ := s.manager.load_result ds s.world
    exact Option.isSome_iff_ne_none.mpr fun hnone => hcalm (hpanic.mp hnone)

theorem Tallied.perform {s : Session σ C} {results : List (Except LoadError LoadReport)}
    (h : s.Tallied results) (op : Operation σ C) (hcalm : none ∉ (s.moment op).attempts) :
    (s.perform op).2.Tallied (results ++ (s.moment op).result?.toList) := by
  cases hop : op.isLoad with
  | false =>
    obtain ⟨hnone, hmetrics, hactive⟩ := s.perform_frame hop
    rw [hnone, Option.toList_none, List.append_nil]
    exact h.congr hmetrics hactive
  | true =>
    cases op with
    | register name plugin => cases hop
    | apply name options => cases hop
    | load ds =>
      obtain ⟨result, hresult⟩ := Option.isSome_iff_exists.mp (s.isSome_result? (.load ds) hcalm)
      rw [hresult]
      exact h.load hresult

theorem Tallied.finish {s : Session σ C} (h : s.Tallied []) (ops : List (Operation σ C))
    (hcalm : ∀ m ∈ s.history ops, none ∉ m.attempts) :
    (s.finish ops).Tallied ((s.history ops).filterMap Moment.result?) := by
  -- The last call finds the session that all calls before it have left.
  induction ops using List.reverseRecOn with
  | nil => exact h
  | append_singleton ops op ih =>
    rw [history_concat] at hcalm ⊢
    obtain ⟨hearlier, hlast⟩ := List.forall_mem_append.mp hcalm
    have hperformed := (ih hearlier).perform op (hlast _ (List.mem_singleton_self _))
    rw [finish_concat, List.filterMap_append]
    cases hresult : ((s.finish ops).moment op).result? <;> rw [hresult] at hperformed <;>
      simpa [hresult] using hperformed

theorem length_results (s : Session σ C) (ops : List (Operation σ C))
    (hcalm : ∀ m ∈ s.history ops, none ∉ m.attempts) :
    ((s.history ops).filterMap Moment.result?).length = ops.countP Operation.isLoad := by
  induction ops generalizing s with
  | nil => rfl
  | cons op ops ih =>
    obtain ⟨hfirst, hrest⟩ := List.forall_mem_cons.mp hcalm
    have hsome := s.isSome_result? op hfirst
    rw [history_cons, List.countP_cons, ← ih _ hrest, ← hsome]
    cases hresult : (s.moment op).result? <;> simp [hresult]

/-- In every history of a new manager with fresh metrics in which no plugin panics, the counters
and the gauge tell the results of all loads and the chain in force: the loads that published one,
with all filters or without some, are as many as the generation, all outcomes are as many as the
loads, the failures of each kind are those in the results, and the gauge is the length of the chain
since one was published. During each load its failures are logged in order, as they are in the
result, with the names and the places of their descriptors; then one event closes it, with what the
result and the chain in force say. -/
theorem telemetry_of_history (registry : Registry σ C) (policy : ReloadPolicy) {world : World σ}
    (hfresh : world.metrics = .zero) (ops : List (Operation σ C))
    (hcalm : ∀ m ∈ (initial registry policy world).history ops, none ∉ m.attempts) :
    let s := (initial registry policy world).finish ops
    let moments := (initial registry policy world).history ops
    let results := moments.filterMap Moment.result?
    let metrics := s.world.metrics
    metrics.loads .published + metrics.loads .reduced = s.manager.generation ∧
    metrics.loads .published + metrics.loads .reduced + metrics.loads .rejected =
      ops.countP Operation.isLoad ∧
    (∀ o, metrics.loads o = results.countP fun result => .ofResult result = o) ∧
    (∀ kind, metrics.failures kind = countKind kind (results.flatMap failuresOf)) ∧
    metrics.chainLength? =
      (if results.any Except.isOk then some s.manager.active.filters.length else none) ∧
    ∀ m ∈ moments, ∀ ds, m.operation = .load ds →
      ∃ result events, m.answer = .loaded (some result) ∧
        m.after.world.events = m.before.world.events ++ events ++
          [closingEvent m.after.manager.generation result] ∧
        (∀ e ∈ events, e.component = .builder) ∧
        events.filter Event.isBuildFailure = (failuresOf result).map .buildFailed ∧
        ((failuresOf result).map fun failure => (failure.error.filterName, failure.index)).Sublist
          (ds.map Descriptor.name).zipIdx ∧
        m.after.manager.active.Shows ds.length result := by
  intro s moments results metrics
  have htallied := (Tallied.initial registry policy hfresh).finish ops hcalm
  have hlength := length_results _ ops hcalm
  refine ⟨htallied.generation, ?_, htallied.loads, htallied.failures, htallied.length, ?_⟩
  · rw [htallied.loads, htallied.loads, htallied.loads, ← hlength]
    exact LoadOutcome.countP_ofResult results
  · intro m hm ds hload
    have hsome := hcalm m hm
    obtain ⟨earlier, op, later, _, rfl⟩ := mem_history_iff.mp hm
    obtain rfl : op = .load ds := hload
    obtain ⟨result, hresult⟩ := Option.isSome_iff_exists.mp
      (((initial registry policy world).finish earlier).isSome_result? _ hsome)
    obtain ⟨⟨w', hreported, hevents, _⟩, hsublist, hshows⟩ :=
      Manager.load_reported _ ds _ hresult
    obtain ⟨events, hlogged, hbuilder, hfailed⟩ := hreported.logged
    refine ⟨result, events, congrArg Answer.loaded hresult, ?_, hbuilder, hfailed, hsublist, hshows⟩
    rw [hlogged] at hevents
    exact hevents

theorem telemetry_of_history_of_rejected :
    let registry := Catalogue.registryOf [("limit", "limit")]
    let world : World Calls := ⟨[], 0, [], .zero⟩
    let limit : Descriptor := ⟨"limit", []⟩
    let absent : Descriptor := ⟨"absent", []⟩
    let ops := [.load [limit], .apply "absent" [], .load [absent, limit], .load [limit, limit]]
    let s := (initial registry .reject world).finish ops
    s.world.metrics.loads .published + s.world.metrics.loads .reduced = s.manager.generation ∧
      s.world.metrics.loads .rejected = 1 ∧ s.world.metrics.failures .pluginNotFound = 1 ∧
      s.world.metrics.chainLength? = some s.manager.active.filters.length := by
  intro registry world limit absent ops s
  have hfresh : world.metrics = .zero := rfl
  have hall : (((initial registry .reject world).history ops).all fun m =>
      m.attempts.all Option.isSome) = true := by
    decide +kernel
  have hcalm : ∀ m ∈ (initial registry .reject world).history ops, none ∉ m.attempts := by
    intro m hm
    exact none_notMem_of_all_isSome (List.all_eq_true.mp hall m hm)
  obtain ⟨hgeneration, _, hloads, hfailures, hlength, _⟩ :=
    telemetry_of_history registry .reject hfresh ops hcalm
  refine ⟨hgeneration, ?_, ?_, ?_⟩
  · rw [hloads]
    decide +kernel
  · rw [hfailures]
    decide +kernel
  · rw [hlength, if_pos (by decide +kernel)]

end Session

end FilterGateway
