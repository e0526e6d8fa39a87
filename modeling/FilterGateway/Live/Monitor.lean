import FilterGateway.Live.Watcher

/-!
# Monitoring a configuration file

A monitor validates a file when it starts and again whenever the file changes, and logs each
verdict.
-/

namespace FilterGateway

structure Monitor where
  watcher : Watcher

/-- The verdict on a file when a monitor starts. -/
def initialVerdict : Except ConfigError GatewayConfig → Event
  | .ok config => .initialValid config.filters.length
  | .error e => .initialInvalid e

/-- The verdict on a version of a file that the watcher has emitted. -/
def laterVerdict (config : GatewayConfig) : Event :=
  .configValid (config.filters.map (·.name)) config.reload.policy

namespace Monitor

/-- A monitor of a file, and what it logs at first. The file is read twice: the first verdict is on
what was `loaded`, and later versions are compared with the `file` as the watcher finds it when it
starts. -/
def start (path : String) (loaded file : FileState) : List Event × Monitor :=
  ([initialVerdict (loadConfig loaded), .watcherStarted path], ⟨.start path none file⟩)

/-- What a monitor logs about a change. -/
def react (m : Monitor) (change : Change) (file : FileState) : List Event × Monitor :=
  let (sighting, watcher) := m.watcher.notice change file
  (sighting.events ++ sighting.emitted?.toList.map laterVerdict, ⟨watcher⟩)

/-- What a monitor logs when it is interrupted. -/
def stop : List Event :=
  [.watchInterrupted]

end Monitor

end FilterGateway
