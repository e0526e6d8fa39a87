import FilterGateway.Filter.Manager

/-!
# The reload loop

The reload loop loads each configuration that it is sent, in order, under the policy that its
manager was made with. It ends when no more can come, or when it hears of a shutdown; when both an
update and a shutdown are ready, it may turn to either.
-/

namespace FilterGateway

/-- The two things that the loop waits for. -/
inductive Branch where
  | updates
  | shutdown
deriving DecidableEq, Repr

/-- A reload loop. `isOpen` tells whether updates may still be sent, and `isSignalled` whether a
shutdown was signalled or has become impossible to signal. -/
structure ReloadLoop (σ C : Type) where
  manager : Manager σ C
  world : World σ
  queue : List GatewayConfig := []
  isOpen : Bool := true
  isSignalled : Bool := false
  isRunning : Bool := true

/-- The event of a load that was made for an update. -/
def updateEvent : Option (Except LoadError LoadReport) → Event
  | some (.ok report) => .updateApplied report.generation report.loaded report.skipped.length
  | some (.error e) => .updateNotApplied e
  | none => .loadPanicked

namespace Manager

variable {σ C : Type}

/-- Notes that an update asks for another policy than the manager's own. -/
def notePolicy (m : Manager σ C) (requested : ReloadPolicy) (w : World σ) : World σ :=
  if requested = m.policy then w else w.log (.policyFixed m.policy requested)

/-- The manager after an update. -/
def update (m : Manager σ C) (config : GatewayConfig) (w : World σ) : Manager σ C × World σ :=
  let (result, m, w) := m.load config.filters (m.notePolicy config.reload.policy w)
  (m, w.log (updateEvent result))

end Manager

namespace ReloadLoop

variable {σ C : Type}

/-- A loop that has just started. -/
def start (m : Manager σ C) (w : World σ) : ReloadLoop σ C where
  manager := m
  world := w.log (.loopStarting m.policy)

/-- The loop after an event of its own or of others. -/
def log (l : ReloadLoop σ C) (e : Event) : ReloadLoop σ C :=
  { l with world := l.world.log e }

/-- The loop once it has ended, for the reason that the event gives. -/
def stop (l : ReloadLoop σ C) (e : Event) : ReloadLoop σ C :=
  { l.log e with isRunning := false }

/-- The loop with an update in its queue, and whether the update could be sent. -/
def send (l : ReloadLoop σ C) (config : GatewayConfig) : Bool × ReloadLoop σ C :=
  if l.isRunning && l.isOpen then (true, { l with queue := l.queue ++ [config] }) else (false, l)

def close (l : ReloadLoop σ C) : ReloadLoop σ C :=
  { l with isOpen := false }

def signal (l : ReloadLoop σ C) : ReloadLoop σ C :=
  { l with isSignalled := true }

/-- Whether there is something to do on a branch. -/
def isReady (l : ReloadLoop σ C) : Branch → Bool
  | .updates => l.isRunning && (!l.queue.isEmpty || !l.isOpen)
  | .shutdown => l.isRunning && l.isSignalled

/-- The loop after the load of an update that it has taken from its queue. -/
def load (l : ReloadLoop σ C) (config : GatewayConfig) : ReloadLoop σ C :=
  let (manager, world) := l.manager.update config l.world
  { l with manager, world }

/-- The loop once it has turned to a branch, and the update that it has taken from its queue. -/
def select (l : ReloadLoop σ C) (branch : Branch) : Option GatewayConfig × ReloadLoop σ C :=
  if l.isReady branch then
    match branch, l.queue with
    | .updates, config :: queue => (some config, { l with queue })
    | .updates, [] => (none, l.stop .updatesClosed)
    | .shutdown, _ => (none, l.stop .loopShutDown)
  else (none, l)

/-- The loop after it has turned to a branch and loaded the update that it found there. -/
def advance (l : ReloadLoop σ C) (branch : Branch) : ReloadLoop σ C :=
  match l.select branch with
  | (some config, l) => l.load config
  | (none, l) => l

/-- The loop once there is nothing left to do, when it takes updates first. -/
def settle (l : ReloadLoop σ C) : ReloadLoop σ C :=
  ((List.replicate (l.queue.length + 1) Branch.updates).foldl advance l).advance .shutdown

end ReloadLoop

end FilterGateway
