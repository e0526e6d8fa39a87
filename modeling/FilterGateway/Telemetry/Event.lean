import FilterGateway.Config.Load
import FilterGateway.Filter.Error
import FilterGateway.Text.Quoted

/-!
# Log events

Each thing that is worth a line in the log is an event with its data. The level, the text, the
fields and the component of an event are functions of it.
-/

namespace FilterGateway

/-- The severity of an event, least severe last. -/
inductive Level where
  | error
  | warn
  | info
  | debug
  | trace
deriving DecidableEq, Repr

namespace Level

def label : Level → String
  | error => "ERROR"
  | warn => "WARN"
  | info => "INFO"
  | debug => "DEBUG"
  | trace => "TRACE"

/-- How many levels are at most as verbose. -/
def verbosity : Level → Nat
  | error => 1
  | warn => 2
  | info => 3
  | debug => 4
  | trace => 5

end Level

/-- The parts of the program that log. -/
inductive Component where
  | registry
  | builder
  | manager
  | watcher
  | reload
  | shutdown
  | startup
  | commandLine
deriving DecidableEq, Repr

/-- The name of a component in a line of the log. -/
def Component.target : Component → String
  | registry => "filter_chain::filter::registry"
  | builder => "filter_chain::filter::builder"
  | manager => "filter_chain::filter::manager"
  | watcher => "filter_chain::config::watcher"
  | reload => "filter_chain::lifecycle::reload"
  | shutdown => "filter_chain::lifecycle::shutdown"
  | startup => "filter_chain::lifecycle::startup"
  | commandLine => "filterctl"

inductive Event where
  | pluginRegistered (name : String)
  | filterInitialized (name : String) (options : Nat)
  | buildFailed (failure : FilterFailure)
  | loadRejected (failed total generation : Nat)
  | chainReloaded (generation filters : Nat)
  | chainReduced (generation filters skipped : Nat)
  | loopStarting (policy : ReloadPolicy)
  | policyFixed (current requested : ReloadPolicy)
  | updateApplied (generation filters skipped : Nat)
  | updateNotApplied (error : LoadError)
  | loadPanicked
  | updatesClosed
  | loopShutDown
  | watcherStarted (path : String)
  | fileUnreadable (path : String) (error : ReadError)
  | fileEmpty (path : String)
  | fileChanged (path : String)
  | reloadFailed (error : ConfigError)
  | receiverDropped
  | configLoaded (path : String) (filters : Nat) (policy : ReloadPolicy) (watch : Bool)
  | initialReduced (skipped : Nat)
  | initialRejected (error : LoadError)
  | runtimeStopped
  | shutdownTriggered (listeners : Nat)
  | initialValid (filters : Nat)
  | initialInvalid (error : ConfigError)
  | configValid (names : List String) (policy : ReloadPolicy)
  | watchInterrupted

/-- The value of a field of an event. -/
inductive FieldValue where
  | int (n : Nat)
  | bool (b : Bool)
  | text (s : String)

def FieldValue.write : FieldValue → String
  | int n => toString n
  | bool b => if b then "true" else "false"
  | text s => s

namespace Event

def level : Event → Level
  | pluginRegistered _ | filterInitialized _ _ | receiverDropped | shutdownTriggered _ => .debug
  | chainReloaded _ _ | loopStarting _ | updateApplied _ _ _ | updatesClosed | loopShutDown
  | watcherStarted _ | fileChanged _ | configLoaded _ _ _ _ | runtimeStopped | initialValid _
  | configValid _ _ | watchInterrupted => .info
  | chainReduced _ _ _ | policyFixed _ _ | updateNotApplied _ | fileUnreadable _ _ | fileEmpty _
  | initialReduced _ => .warn
  | buildFailed _ | loadRejected _ _ _ | loadPanicked | reloadFailed _ | initialRejected _
  | initialInvalid _ => .error

def component : Event → Component
  | pluginRegistered _ => .registry
  | filterInitialized _ _ | buildFailed _ => .builder
  | loadRejected _ _ _ | chainReloaded _ _ | chainReduced _ _ _ => .manager
  | loopStarting _ | policyFixed _ _ | updateApplied _ _ _ | updateNotApplied _ | loadPanicked
  | updatesClosed | loopShutDown => .reload
  | watcherStarted _ | fileUnreadable _ _ | fileEmpty _ | fileChanged _ | reloadFailed _
  | receiverDropped => .watcher
  | configLoaded _ _ _ _ | initialReduced _ | initialRejected _ | runtimeStopped => .startup
  | shutdownTriggered _ => .shutdown
  | initialValid _ | initialInvalid _ | configValid _ _ | watchInterrupted => .commandLine

def message : Event → String
  | pluginRegistered _ => "Filter plugin registered"
  | filterInitialized _ _ => "Filter initialized"
  | buildFailed _ => "Filter build failed"
  | loadRejected _ _ _ => "Filter reload rejected. Keeping current chain."
  | chainReloaded _ _ => "Filter chain reloaded"
  | chainReduced _ _ _ => "Filter chain reloaded without failed filters"
  | loopStarting _ => "Filter reload loop starting"
  | policyFixed _ _ => "Reload policy changes take effect on restart"
  | updateApplied _ _ _ => "Config update applied"
  | updateNotApplied _ => "Config update not applied"
  | loadPanicked => "Filter reload task failed"
  | updatesClosed => "Config update channel closed, reload loop exiting"
  | loopShutDown => "Reload loop received shutdown signal, exiting loop"
  | watcherStarted _ => "Config watcher started"
  | fileUnreadable _ _ => "Config file unreadable, skipping reload"
  | fileEmpty _ => "Config file is empty, ignoring change"
  | fileChanged _ => "Config file change detected, reloading..."
  | reloadFailed error =>
    "Failed to reload config: " ++ error.message ++ ". Keeping current configuration."
  | receiverDropped => "Config update receiver dropped"
  | configLoaded _ _ _ _ => "Configuration loaded"
  | initialReduced _ => "Initial chain started without some filters"
  | initialRejected _ => "Initial filter chain rejected, starting with an empty chain"
  | runtimeStopped => "Filter runtime stopped"
  | shutdownTriggered _ => "Shutdown triggered"
  | initialValid _ => "Initial configuration valid"
  | initialInvalid _ => "Initial configuration invalid"
  | configValid _ _ => "Configuration valid"
  | watchInterrupted => "Interrupted, stopping watch"

/-- The fields of an event, in the order in which they are written. -/
def fields : Event → List (String × FieldValue)
  | pluginRegistered name => [("filter", .text name)]
  | filterInitialized name options => [("filter", .text name), ("options", .int options)]
  | buildFailed ⟨index, error⟩ =>
    [("filter", .text error.filterName), ("index", .int index), ("kind", .text error.kind.label),
      ("error", .text error.message)]
  | loadRejected failed total generation =>
    [("failed", .int failed), ("total", .int total), ("generation", .int generation)]
  | chainReloaded generation filters => [("generation", .int generation), ("filters", .int filters)]
  | chainReduced generation filters skipped | updateApplied generation filters skipped =>
    [("generation", .int generation), ("filters", .int filters), ("skipped", .int skipped)]
  | loopStarting policy => [("policy", .text policy.label)]
  | policyFixed current requested =>
    [("current", .text current.label), ("requested", .text requested.label)]
  | updateNotApplied error | initialRejected error => [("error", .text error.message)]
  | watcherStarted path | fileEmpty path | fileChanged path => [("path", .text (Text.quote path))]
  | fileUnreadable path error =>
    [("path", .text (Text.quote path)), ("error", .text error.message)]
  | configLoaded path filters policy watch =>
    [("path", .text (Text.quote path)), ("filters", .int filters), ("policy", .text policy.label),
      ("watch", .bool watch)]
  | initialReduced skipped => [("skipped", .int skipped)]
  | shutdownTriggered listeners => [("listeners", .int listeners)]
  | initialValid filters => [("filters", .int filters)]
  | initialInvalid error => [("error", .text error.message)]
  | configValid names policy =>
    [("filters", .text (Text.quoteList names)), ("policy", .text policy.label)]
  | loadPanicked | updatesClosed | loopShutDown | reloadFailed _ | receiverDropped | runtimeStopped
  | watchInterrupted => []

/-- One line of the log, without the time. -/
def line (e : Event) : String :=
  e.level.label ++ " " ++ e.component.target ++ ": " ++ e.message ++
    String.join (e.fields.map fun (name, value) => " " ++ name ++ "=" ++ value.write)

end Event

end FilterGateway
