import FilterGateway.Live.ReloadLoop
import FilterGateway.Live.Shutdown

/-!
# A reload loop with its coordinator

The loop listens to a coordinator as long as it runs. Dropping the coordinator ends the loop as a
signal does.
-/

namespace FilterGateway

/-- A reload loop, and the coordinator unless it was dropped. -/
structure Service (σ C : Type) where
  loop : ReloadLoop σ C
  shutdown? : Option Shutdown

namespace Service

variable {σ C : Type}

/-- The name under which the loop listens. -/
def listener : String :=
  "reload loop"

def start (m : Manager σ C) (w : World σ) : Service σ C where
  loop := .start m w
  shutdown? := some (Shutdown.subscribe {} listener)

/-- A service whose loop was never started. -/
def idle (m : Manager σ C) (w : World σ) : Service σ C where
  loop := { manager := m, world := w, isRunning := false }
  shutdown? := some {}

def manager (s : Service σ C) : Manager σ C :=
  s.loop.manager

def world (s : Service σ C) : World σ :=
  s.loop.world

/-- The service with an empty log. -/
def quiet (s : Service σ C) : Service σ C :=
  { s with loop := { s.loop with world := s.loop.world.quiet } }

/-- The service once its loop has nothing left to do. -/
def settle (s : Service σ C) : Service σ C :=
  let loop := s.loop.settle
  { loop,
    shutdown? := if loop.isRunning then s.shutdown? else s.shutdown?.map (·.unsubscribe listener) }

/-- An update for the loop, and whether it could be sent. -/
def update (s : Service σ C) (config : GatewayConfig) : Bool × Service σ C :=
  let (sent, loop) := s.loop.send config
  (sent, settle { s with loop })

/-- The service once no more updates can come. -/
def close (s : Service σ C) : Service σ C :=
  settle { s with loop := s.loop.close }

/-- A signal to all listeners and their number, unless the coordinator was dropped. The loop has not
heard of it yet. -/
def signal (s : Service σ C) : Option Nat × Service σ C :=
  match s.shutdown? with
  | none => (none, s)
  | some shutdown =>
    let heard := shutdown.isListening listener
    let (listeners, shutdown) := shutdown.trigger
    let loop := s.loop.log (.shutdownTriggered listeners)
    (some listeners, { loop := if heard then loop.signal else loop, shutdown? := some shutdown })

/-- A signal to all listeners and their number, once the loop has heard of it. -/
def trigger (s : Service σ C) : Option Nat × Service σ C :=
  let (listeners?, s) := s.signal
  (listeners?, s.settle)

/-- The service without its coordinator. -/
def dropCoordinator (s : Service σ C) : Service σ C :=
  settle { loop := s.loop.signal, shutdown? := none }

end Service

end FilterGateway
