import FilterGateway.Telemetry.Directive
import FilterGateway.Telemetry.Event

/-!
# Choosing what is logged

A list of directives says which events are logged. Of the directives that apply to an event the most
specific one decides, and of several that ask for the same the last one.
-/

namespace FilterGateway

/-- The directives in force. -/
abbrev LogFilter := List Directive

namespace LogFilter

/-- The texts of directives in a list. -/
def parts (text : String) : List String :=
  (text.splitOn ",").filter (· != "")

/-- The directives, or errors only when there are none. -/
def orErrors (directives : List Directive) : LogFilter :=
  if directives.isEmpty then [{ verbosity := 1 }] else directives

/-- The directives of a text, when all of them can be read. -/
def read (text : String) : Except DirectiveError LogFilter :=
  ((parts text).mapM Directive.read).map orErrors

/-- The directives of a text, without those that are malformed. -/
def readLossy (text : String) : Except DirectiveError LogFilter := do
  let directives? ← (parts text).mapM fun part =>
    match Directive.read part with
    | .ok d => .ok (some d)
    | .error .malformed => .ok none
    | .error .splitCharacter => .error .splitCharacter
  return orErrors (directives?.filterMap id)

/-- The directives given by the environment or, when there are none or one of them is malformed,
those of the level in a configuration. -/
def choose (environment? : Option String) (level : String) : Except DirectiveError LogFilter :=
  match environment? with
  | none => readLossy level
  | some text =>
    match read text with
    | .error .malformed => readLossy level
    | result => result

/-- The directive that decides about the events of a component with certain fields. -/
def decisive? (filter : LogFilter) (target : String) (fields : List String) : Option Directive :=
  (filter.filter fun d => d.applies target fields).foldl (fun best? d =>
    match best? with
    | some best => if d.yieldsTo best then some best else some d
    | none => some d) none

/-- Whether an event is logged. Its text is one of its fields. -/
def admits (filter : LogFilter) (e : Event) : Bool :=
  let fields := "message" :: e.fields.map (·.1)
  (filter.decisive? e.component.target fields).any fun d => e.level.verbosity ≤ d.verbosity

end LogFilter

/-- The verbosity of a log that a configuration asks for, where an invalid one has a default. -/
def logLevelOf : Except ConfigError GatewayConfig → String
  | .ok config => config.observability.logLevel
  | .error _ => "info"

end FilterGateway
