import FilterGateway.Table

/-!
# Shutdown signals

A coordinator signals everyone who listens. One signal is kept for a listener until it is received:
a listener that has fallen behind is told how many signals it missed and then gets the kept one.
-/

namespace FilterGateway

/-- A coordinator: how many signals it has sent, and how many of them each listener has received or
missed. -/
structure Shutdown where
  sent : Nat := 0
  listeners : Table Nat := []
deriving Repr

/-- What a listener finds. -/
inductive Reception where
  | signal
  | empty
  | lagged (missed : Nat)
deriving DecidableEq, Repr

def Reception.label : Reception → String
  | signal => "signal"
  | empty => "Empty"
  | lagged missed => "Lagged(" ++ toString missed ++ ")"

namespace Shutdown

def isListening (s : Shutdown) (name : String) : Bool :=
  (s.listeners.get? name).isSome

/-- The coordinator with a new listener, who hears of later signals only. A listener of that name
from before is dropped. -/
def subscribe (s : Shutdown) (name : String) : Shutdown :=
  { s with listeners := s.listeners.insert name s.sent }

def unsubscribe (s : Shutdown) (name : String) : Shutdown :=
  { s with listeners := s.listeners.erase name }

/-- The number of listeners and the coordinator once they have been signalled. Without a listener
nothing is sent. -/
def trigger (s : Shutdown) : Nat × Shutdown :=
  if s.listeners.isEmpty then (0, s) else (s.listeners.length, { s with sent := s.sent + 1 })

/-- What a listener finds, if there is one of that name. -/
def receive (s : Shutdown) (name : String) : Option Reception × Shutdown :=
  match s.listeners.get? name with
  | none => (none, s)
  | some seen =>
    let heard (n : Nat) : Shutdown := { s with listeners := s.listeners.insert name n }
    if s.sent ≤ seen then (some .empty, s)
    else if s.sent = seen + 1 then (some .signal, heard s.sent)
    else (some (.lagged (s.sent - 1 - seen)), heard (s.sent - 1))

end Shutdown

end FilterGateway
