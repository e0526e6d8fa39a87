import FilterGateway.Live.Change
import FilterGateway.Telemetry.Event

/-!
# Watching a configuration file

The watcher emits every valid new version of a file. It remembers the text of the version that it
emitted last, or that it started from, and passes over a text that equals it; a text that is blank
or invalid is reported and forgotten.
-/

namespace FilterGateway

structure Watcher where
  path : String
  baseline? : Option String

/-- What a watcher does about one change. -/
structure Sighting where
  events : List Event := []
  emitted? : Option GatewayConfig := none

namespace Watcher

/-- A watcher that compares with the text that was loaded or, without one, with the file as it is
now. -/
def start (path : String) (loaded? : Option String) (file : FileState) : Watcher where
  path := path
  baseline? :=
    match loaded?, file.text with
    | some text, _ => some text
    | none, .ok text => some text
    | none, .error _ => none

/-- What the watcher does about a text that it finds in the file. -/
def inspect (w : Watcher) (text : String) : Sighting × Watcher :=
  if w.baseline? = some text then ({}, w)
  else if Text.isBlank text then ({ events := [.fileEmpty w.path] }, w)
  else
    match parseConfig text with
    | .ok config =>
      ({ events := [.fileChanged w.path], emitted? := some config },
        { w with baseline? := some text })
    | .error e => ({ events := [.fileChanged w.path, .reloadFailed e] }, w)

/-- What the watcher does about a change, with the file as it is then. -/
def notice (w : Watcher) (change : Change) (file : FileState) : Sighting × Watcher :=
  if change.concerns w.path then
    match file.text with
    | .ok text => w.inspect text
    | .error e => ({ events := [.fileUnreadable w.path e] }, w)
  else ({}, w)

end Watcher

/-- A sighting when nobody receives what the watcher emits. -/
def Sighting.unreceived (s : Sighting) : Sighting :=
  match s.emitted? with
  | some _ => { events := s.events ++ [.receiverDropped] }
  | none => s

end FilterGateway
