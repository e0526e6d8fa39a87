import FilterGateway.Live.Service
import FilterGateway.Live.Watcher

/-!
# A running gateway

A gateway starts from a configuration file: it loads the chain and, when the file says so, watches
the file and feeds every new version to a reload loop. A file without a valid configuration is
fatal; filters that fail to build are not.
-/

namespace FilterGateway

/-- A running gateway. Without a watcher its reload loop was never started. -/
structure Runtime (σ C : Type) where
  service : Service σ C
  watcher? : Option Watcher

/-- The text of an error that keeps a gateway from starting. -/
def startupMessage (e : ConfigError) : String :=
  "failed to load configuration: " ++ e.message

/-- The events of the load that a gateway starts with. -/
def initialEvents : Except LoadError LoadReport → List Event
  | .ok report => if report.skipped.isEmpty then [] else [.initialReduced report.skipped.length]
  | .error e => [.initialRejected e]

namespace Runtime

variable {σ C : Type}

/-- The gateway around a manager whose first chain is loaded. -/
def serve (path text : String) (watch : Bool) (m : Manager σ C) (w : World σ) : Runtime σ C :=
  if watch then
    { service := .start m (w.log (.watcherStarted path)), watcher? := some ⟨path, some text⟩ }
  else { service := .idle m w, watcher? := none }

/-- The gateway of a configuration; nothing when a plugin panics. -/
def launch (path text : String) (config : GatewayConfig) (registry : Registry σ C) (w : World σ) :
    Option (Runtime σ C) × World σ :=
  let manager : Manager σ C := { registry, policy := config.reload.policy }
  let w := w.log (.configLoaded path config.filters.length config.reload.policy config.reload.watch)
  match manager.load config.filters w with
  | (none, _, w) => (none, w)
  | (some result, m, w) =>
    let runtime := serve path text config.reload.watch m ((initialEvents result).foldl World.log w)
    (some runtime, runtime.service.world)

/-- The gateway of a file; nothing when a plugin panics. -/
def start (path : String) (file : FileState) (registry : Registry σ C) (w : World σ) :
    Option (Except ConfigError (Runtime σ C)) × World σ :=
  match file.text with
  | .error e => (some (.error (.io e)), w)
  | .ok text =>
    match parseConfig text with
    | .error e => (some (.error e), w)
    | .ok config =>
      match launch path text config registry w with
      | (runtime?, w) => (runtime?.map .ok, w)

def manager (r : Runtime σ C) : Manager σ C :=
  r.service.manager

def isWatching (r : Runtime σ C) : Bool :=
  r.watcher?.isSome

/-- The gateway with an empty log. -/
def quiet (r : Runtime σ C) : Runtime σ C :=
  { r with service := r.service.quiet }

/-- The gateway once its watcher has seen a change. What the watcher emits waits in the queue of the
reload loop. -/
def notice (r : Runtime σ C) (change : Change) (file : FileState) : Runtime σ C :=
  match r.watcher? with
  | none => r
  | some watcher =>
    let (sighting, watcher) := watcher.notice change file
    let loop := sighting.events.foldl ReloadLoop.log r.service.loop
    let loop :=
      match sighting.emitted? with
      | none => loop
      | some config =>
        let (sent, loop) := loop.send config
        if sent then loop else loop.log .receiverDropped
    { service := { r.service with loop }, watcher? := some watcher }

/-- The gateway once a change has been seen and its reload loop has nothing left to do. -/
def react (r : Runtime σ C) (change : Change) (file : FileState) : Runtime σ C :=
  let r := r.notice change file
  { r with service := r.service.settle }

/-- The service of a gateway that has been shut down: the watcher goes, which closes the channel for
updates, and then the coordinator signals the loop. -/
def shutdown (r : Runtime σ C) : Service σ C :=
  let s := { r.service with loop := r.service.loop.close }
  let s := s.signal.2.settle
  { s with loop := s.loop.log .runtimeStopped }

end Runtime

end FilterGateway
