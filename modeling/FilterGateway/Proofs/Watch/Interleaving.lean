import FilterGateway.Live.Runtime
import FilterGateway.Proofs.Build.Steady
import FilterGateway.Proofs.Watch.Emission

/-!
# The watcher and the reload loop in turns

The watcher and the reload loop of a gateway take turns in any order, and the watcher may hear of
changes while the loop is in the middle of a load. Throughout, the watcher remembers a valid text
whose configuration is the last one in the queue or, when nothing is waiting, the one that was
loaded last. Every schedule can be continued until nothing is waiting.
-/

namespace FilterGateway

variable {σ C : Type}

/-- A running gateway, with the update that its reload loop is about to load. -/
structure Running (σ C : Type) where
  runtime : Runtime σ C
  loading? : Option GatewayConfig := none

/-- A turn of the watcher, which hears of a change, or of the reload loop, which turns to a branch
or brings a load to its end. -/
inductive Turn where
  | observe (o : Observation)
  | select (branch : Branch)
  | finish

def Turn.observations : Turn → List Observation
  | observe o => [o]
  | select _ | finish => []

def Runtime.withLoop (r : Runtime σ C) (loop : ReloadLoop σ C) : Runtime σ C :=
  { r with service := { r.service with loop } }

@[simp] theorem Runtime.withLoop_self (r : Runtime σ C) : r.withLoop r.service.loop = r := rfl

namespace Running

/-- The gateway after one turn. The loop does not turn to a branch during a load. -/
def turn (g : Running σ C) : Turn → Running σ C
  | .observe o => { g with runtime := g.runtime.notice o.change o.file }
  | .select branch =>
    match g.loading? with
    | some _ => g
    | none =>
      let (loading?, loop) := g.runtime.service.loop.select branch
      ⟨g.runtime.withLoop loop, loading?⟩
  | .finish =>
    match g.loading? with
    | some config => ⟨g.runtime.withLoop (g.runtime.service.loop.load config), none⟩
    | none => g

def follow (g : Running σ C) (turns : List Turn) : Running σ C :=
  turns.foldl turn g

theorem follow_append (g : Running σ C) (turns turns' : List Turn) :
    g.follow (turns ++ turns') = (g.follow turns).follow turns' :=
  List.foldl_append ..

def drain (n : Nat) : List Turn :=
  (List.replicate n [Turn.select .updates, .finish]).flatten

@[simp] theorem observations_drain (n : Nat) : (drain n).flatMap Turn.observations = [] := by
  induction n with
  | zero => rfl
  | succ n ih => exact ih

/-- The updates that are not loaded yet. -/
def pending (g : Running σ C) : List GatewayConfig :=
  g.loading?.toList ++ g.runtime.service.loop.queue

theorem select_finish (r : Runtime σ C) (branch : Branch) :
    (({ runtime := r } : Running σ C).follow [.select branch, .finish]) =
      { runtime := r.withLoop (r.service.loop.advance branch) } := by
  rcases h : r.service.loop.select branch with ⟨_ | config, loop⟩ <;>
    simp [follow, turn, ReloadLoop.advance, h, Runtime.withLoop]

end Running

namespace ReloadLoop

theorem foldl_log (l : ReloadLoop σ C) (es : List Event) :
    es.foldl log l = { l with world := es.foldl World.log l.world } := by
  induction es generalizing l with
  | nil => rfl
  | cons e es ih => simp [ih, log]

@[simp] theorem registry_load (l : ReloadLoop σ C) (config : GatewayConfig) :
    (l.load config).manager.registry = l.manager.registry :=
  (l.manager.load_frame config.filters _).1

end ReloadLoop

theorem Runtime.notice_eq {r : Runtime σ C} {w : Watcher} (hwatcher : r.watcher? = some w)
    (hrunning : r.service.loop.isRunning = true) (hopen : r.service.loop.isOpen = true)
    (o : Observation) :
    ∃ world, r.notice o.change o.file =
      { service := { r.service with
          loop := { r.service.loop with
            world
            queue := r.service.loop.queue ++ (w.notice o.change o.file).1.emitted?.toList } }
        watcher? := some (w.notice o.change o.file).2 } := by
  rcases hemitted : (w.notice o.change o.file).1.emitted? with _ | config
  · simp [notice, hwatcher, hemitted, ReloadLoop.foldl_log]
  · simp [notice, hwatcher, hemitted, ReloadLoop.foldl_log, ReloadLoop.send, hrunning, hopen]

/-- A gateway whose watcher has come to `w`, and whose loop nobody disturbs: it runs, its channel is
open, and it hears of no shutdown. -/
structure Running.Watched (g : Running σ C) (w : Watcher) : Prop where
  watcher : g.runtime.watcher? = some w
  running : g.runtime.service.loop.isRunning = true
  opened : g.runtime.service.loop.isOpen = true
  unsignalled : g.runtime.service.loop.isSignalled = false

namespace Running.Watched

variable {g : Running σ C} {w : Watcher}

theorem select_updates (h : g.Watched w) (hidle : g.loading? = none) :
    g.turn (.select .updates) =
      ⟨g.runtime.withLoop
        { g.runtime.service.loop with queue := g.runtime.service.loop.queue.tail },
        g.runtime.service.loop.queue.head?⟩ := by
  obtain ⟨r, _ | config⟩ := g
  · have hrunning : r.service.loop.isRunning = true := h.running
    have hopen : r.service.loop.isOpen = true := h.opened
    rcases hqueue : r.service.loop.queue with _ | ⟨config, queue⟩
    · have hready : r.service.loop.isReady .updates = false := by
        simp [ReloadLoop.isReady, hqueue, hopen]
      simp only [Running.turn, ReloadLoop.select, hready, hqueue, List.tail_nil, List.head?_nil]
      rw [← hqueue]
      rfl
    · have hready : r.service.loop.isReady .updates = true := by
        simp [ReloadLoop.isReady, hqueue, hrunning]
      simp [Running.turn, ReloadLoop.select, hready, hqueue]
  · cases hidle

theorem select_shutdown (h : g.Watched w) : g.turn (.select .shutdown) = g := by
  obtain ⟨r, _ | config⟩ := g
  · have hunsignalled : r.service.loop.isSignalled = false := h.unsignalled
    have hready : r.service.loop.isReady .shutdown = false := by
      simp [ReloadLoop.isReady, hunsignalled]
    simp [Running.turn, ReloadLoop.select, hready]
  · rfl

theorem pending_select (h : g.Watched w) (branch : Branch) :
    (g.turn (.select branch)).pending = g.pending := by
  cases branch with
  | shutdown => rw [h.select_shutdown]
  | updates =>
    rcases hloading : g.loading? with _ | config
    · rw [h.select_updates hloading]
      cases hqueue : g.runtime.service.loop.queue <;>
        simp [pending, hloading, hqueue, Runtime.withLoop]
    · simp [Running.turn, hloading]

theorem pending_drain_one (h : g.Watched w) :
    (g.follow (drain 1)).pending = g.pending.tail := by
  change ((g.turn (.select .updates)).turn .finish).pending = g.pending.tail
  rcases hloading : g.loading? with _ | config
  · rw [h.select_updates hloading]
    rcases hqueue : g.runtime.service.loop.queue with _ | ⟨config, queue⟩ <;>
      simp [Running.turn, pending, hqueue, hloading, Runtime.withLoop, ReloadLoop.load]
  · simp [Running.turn, pending, hloading, Runtime.withLoop, ReloadLoop.load]

theorem length_pending_turn (h : g.Watched w) (t : Turn) :
    (g.turn t).pending.length ≤ g.pending.length + 1 := by
  cases t with
  | observe o =>
    obtain ⟨world, hnotice⟩ := Runtime.notice_eq h.watcher h.running h.opened o
    have hturn : g.turn (.observe o) = { g with runtime := g.runtime.notice o.change o.file } := rfl
    rw [hturn, hnotice]
    cases (w.notice o.change o.file).1.emitted? with
    | none => simp [pending]
    | some config =>
      simp only [pending, Option.toList_some, List.length_append, List.length_singleton]
      omega
  | select branch =>
    rw [h.pending_select]
    omega
  | finish =>
    obtain ⟨r, _ | config⟩ := g
    · exact Nat.le_succ _
    · simp only [Running.turn, pending, Runtime.withLoop, ReloadLoop.load, Option.toList_none,
        Option.toList_some, List.nil_append, List.length_append, List.length_singleton]
      omega

theorem turn (h : g.Watched w) (t : Turn) : (g.turn t).Watched (w.after t.observations) := by
  cases t with
  | observe o =>
    obtain ⟨world, hnotice⟩ := Runtime.notice_eq h.watcher h.running h.opened o
    have hturn : g.turn (.observe o) = { g with runtime := g.runtime.notice o.change o.file } := rfl
    rw [hturn, hnotice]
    exact ⟨rfl, h.running, h.opened, h.unsignalled⟩
  | select branch =>
    cases branch with
    | shutdown =>
      rw [h.select_shutdown]
      exact h
    | updates =>
      rcases hloading : g.loading? with _ | config
      · rw [h.select_updates hloading]
        exact ⟨h.watcher, h.running, h.opened, h.unsignalled⟩
      · simpa [Running.turn, hloading, Turn.observations] using h
  | finish =>
    obtain ⟨r, _ | config⟩ := g
    · exact h
    · exact ⟨h.watcher, h.running, h.opened, h.unsignalled⟩

theorem follow (h : g.Watched w) (turns : List Turn) :
    (g.follow turns).Watched (w.after (turns.flatMap Turn.observations)) := by
  induction turns generalizing g w with
  | nil => exact h
  | cons t turns ih =>
    rw [List.flatMap_cons, Watcher.after_append]
    exact ih (h.turn t)

end Running.Watched

/-- A gateway whose watcher has come to `w`. Its loop runs undisturbed, and the configuration of the
text that the watcher remembers is the last one that waits or, when none is waiting, the one that is
served. -/
structure Running.Follows (g : Running σ C) (registry : Registry σ C) (w : Watcher) : Prop where
  watcher : g.runtime.watcher? = some w
  running : g.runtime.service.loop.isRunning = true
  opened : g.runtime.service.loop.isOpen = true
  unsignalled : g.runtime.service.loop.isSignalled = false
  registry : g.runtime.manager.registry = registry
  latest : ∃ text config, w.baseline? = some text ∧ parseConfig text = .ok config ∧
    (g.pending.getLast? = some config ∨
      g.pending = [] ∧ g.runtime.manager.Serves config.filters)

namespace Running.Follows

variable {g : Running σ C} {registry : Registry σ C} {w : Watcher}

theorem watched (h : g.Follows registry w) : g.Watched w :=
  ⟨h.watcher, h.running, h.opened, h.unsignalled⟩

theorem observe (h : g.Follows registry w) (o : Observation) :
    (g.turn (.observe o)).Follows registry (w.notice o.change o.file).2 := by
  obtain ⟨world, hnotice⟩ := Runtime.notice_eq h.watcher h.running h.opened o
  obtain ⟨text, config, hbaseline, hparse, hlatest⟩ := h.latest
  have hturn : g.turn (.observe o) = { g with runtime := g.runtime.notice o.change o.file } := rfl
  rw [hturn, hnotice]
  refine ⟨rfl, h.running, h.opened, h.unsignalled, h.registry, ?_⟩
  rcases htext : o.configText? w.path with _ | found
  · obtain ⟨hnone, hkept⟩ := Watcher.notice_of_idle htext
    refine ⟨text, config, by rw [hkept]; exact hbaseline, hparse, ?_⟩
    simpa [pending, hnone, Runtime.manager, Service.manager] using hlatest
  · obtain ⟨config', hparse', hemitted, hnext⟩ := Watcher.notice_of_configText htext
    refine ⟨found, config', by rw [hnext], hparse', ?_⟩
    -- The text that is remembered is not emitted again: its configuration waits or is served.
    by_cases hsame : text = found
    · subst hsame
      obtain rfl : config = config' := Except.ok.inj (hparse.symm.trans hparse')
      rw [hbaseline, if_pos rfl] at hemitted
      simpa [pending, hemitted, Runtime.manager, Service.manager] using hlatest
    · rw [hbaseline, if_neg (by simpa using hsame)] at hemitted
      left
      simp [pending, hemitted]

theorem select (h : g.Follows registry w) (branch : Branch) :
    (g.turn (.select branch)).Follows registry w := by
  obtain ⟨text, config, hbaseline, hparse, hlatest⟩ := h.latest
  cases branch with
  | shutdown =>
    rw [h.watched.select_shutdown]
    exact h
  | updates =>
    rcases hloading : g.loading? with _ | loading
    · rw [← h.watched.pending_select .updates] at hlatest
      rw [h.watched.select_updates hloading] at hlatest ⊢
      exact ⟨h.watcher, h.running, h.opened, h.unsignalled, h.registry, text, config, hbaseline,
        hparse, hlatest⟩
    · simpa [Running.turn, hloading] using h

theorem finish (hsteady : registry.Steady) (h : g.Follows registry w) :
    (g.turn .finish).Follows registry w := by
  obtain ⟨r, _ | loaded⟩ := g
  · exact h
  · obtain ⟨text, config, hbaseline, hparse, hlatest⟩ := h.latest
    have hregistry : r.service.loop.manager.registry = registry := h.registry
    refine ⟨h.watcher, h.running, h.opened, h.unsignalled,
      (r.service.loop.registry_load loaded).trans hregistry, text, config, hbaseline, hparse, ?_⟩
    rcases hqueue : r.service.loop.queue with _ | ⟨next, queue⟩
    · right
      have hloaded : loaded = config := by
        simpa [pending, hqueue] using hlatest
      refine ⟨by simp [Running.turn, pending, Runtime.withLoop, ReloadLoop.load, hqueue], ?_⟩
      rw [← hloaded]
      exact Manager.load_serves (hregistry ▸ hsteady) loaded.filters _
    · left
      simpa [Running.turn, pending, Runtime.withLoop, ReloadLoop.load, hqueue] using hlatest

theorem turn (hsteady : registry.Steady) (h : g.Follows registry w) (t : Turn) :
    (g.turn t).Follows registry (w.after t.observations) := by
  cases t with
  | observe o => exact h.observe o
  | select branch => exact h.select branch
  | finish => exact h.finish hsteady

theorem follow (hsteady : registry.Steady) (h : g.Follows registry w) (turns : List Turn) :
    (g.follow turns).Follows registry (w.after (turns.flatMap Turn.observations)) := by
  induction turns generalizing g w with
  | nil => exact h
  | cons t turns ih =>
    rw [List.flatMap_cons, Watcher.after_append]
    exact ih (h.turn hsteady t)

theorem length_pending_follow (hsteady : registry.Steady) (h : g.Follows registry w)
    (turns : List Turn) : (g.follow turns).pending.length ≤ g.pending.length + turns.length := by
  induction turns generalizing g w with
  | nil => exact Nat.le_refl _
  | cons t turns ih =>
    have hturn := h.watched.length_pending_turn t
    have hrest := ih (h.turn hsteady t)
    calc ((g.turn t).follow turns).pending.length
        ≤ (g.turn t).pending.length + turns.length := hrest
      _ ≤ g.pending.length + (turns.length + 1) := by omega

theorem pending_drain (hsteady : registry.Steady) (h : g.Follows registry w) {n : Nat}
    (hn : g.pending.length ≤ n) : (g.follow (drain n)).pending = [] := by
  induction n generalizing g with
  | zero => exact List.length_eq_zero_iff.mp (Nat.le_zero.mp hn)
  | succ n ih =>
    have hfirst : (g.follow (drain 1)).Follows registry w := h.follow hsteady (drain 1)
    apply ih hfirst
    rw [h.watched.pending_drain_one, List.length_tail]
    omega

/-- Every schedule has a continuation that drains the queue and in which nothing is observed. -/
theorem follow_drain (hsteady : registry.Steady) (h : g.Follows registry w) (turns : List Turn) :
    (g.follow (turns ++ drain (g.pending.length + turns.length))).pending = [] := by
  rw [follow_append]
  exact (h.follow hsteady turns).pending_drain hsteady (h.length_pending_follow hsteady turns)

end Running.Follows

end FilterGateway
