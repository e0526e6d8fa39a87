import FilterGateway.Catalogue.Kind
import FilterGateway.Filter.Registry

/-!
# Plugins of the catalogue

A plugin of the catalogue makes filters of a kind. Some make no filters at all, and one fails at
every second call; it counts its calls under the name that it is registered under.
-/

namespace FilterGateway

/-- The configuration of a filter of the catalogue: a value of its kind's shape, or the list of all
options that were bound onto it. -/
inductive Setup where
  | shaped (kind : Kind) (value : kind.shape.Value)
  | collected (options : List Fields)

/-- How often plugins that count their calls were called, by the name of the plugin. -/
abbrev Calls := Table Nat

namespace Setup

def label : Setup → String
  | shaped kind _ => kind.label
  | collected _ => "raw"

/-- The written form of a configuration. -/
def dump : Setup → Except EncodeError Json
  | shaped kind value => kind.shape.encode value
  | collected options => .ok (.list (options.map .object))

/-- The shape of a list of all options that were bound. -/
def collectedShape : Shape :=
  .list (.map .text .json)

/-- The configuration of the same kind that a written value stands for. -/
def reread (value : Json) : Setup → Except DecodeError Setup
  | shaped kind _ => (kind.shape.decode value).map (shaped kind)
  | collected _ => (collectedShape.decode value).map collected

/-- The configuration with options bound onto it. -/
def bind (options : Fields) : Setup → Except BindError Setup
  | shaped kind value => (kind.shape.bind value options).map (shaped kind)
  | collected bound => .ok (collected (bound ++ [options]))

/-- What initialization makes of a configuration. -/
def start : Setup → Outcome Setup
  | shaped kind value =>
    match kind.start value with
    | .done value => .done (shaped kind value)
    | .failed message => .failed message
    | .panicked => .panicked
  | collected options => .done (collected options)

end Setup

namespace Catalogue

/-- A plugin that only makes filters by `create`. -/
def plugin (create : Calls → Outcome Setup × Calls) : Plugin Calls Setup where
  create := create
  bind options setup calls :=
    match setup.bind options with
    | .ok setup => (.done setup, calls)
    | .error e => (.failed e.message, calls)
  init setup calls := (setup.start, calls)

/-- A plugin of which every second call fails. -/
def flaky (name : String) : Plugin Calls Setup :=
  plugin fun calls =>
    let call := (calls.get? name).getD 0 + 1
    let calls := calls.insert name call
    if call % 2 = 0 then (.failed ("flaky call " ++ toString call), calls)
    else (.done (.shaped .tag Kind.tag.initial), calls)

/-- The configuration that filters of a kind start from. -/
def initial? (label : String) : Option Setup :=
  if label = "raw" then some (.collected [])
  else (Kind.shaped.find? fun kind => kind.label == label).map fun kind => .shaped kind kind.initial

/-- The plugin that makes filters of a kind, for registration under `name`. -/
def pluginFor (name label : String) : Plugin Calls Setup :=
  match initial? label with
  | some setup => plugin fun calls => (.done setup, calls)
  | none =>
    if label = "flaky" then flaky name
    else
      let source :=
        if label = "broken" then "plugin offline"
        else if label = "offline" then "backing service unavailable"
        else "no such kind: " ++ label
      plugin fun calls => (.failed source, calls)

/-- The kinds of the catalogue. -/
def labels : List String :=
  Kind.shaped.map Kind.label ++ ["raw", "broken", "offline", "flaky"]

/-- A registry with the plugins of these names and kinds; a name that is refused is passed over. -/
def registryOf (plugins : List (String × String)) : Registry Calls Setup :=
  plugins.foldl (fun r (name, label) =>
    match r.register name (pluginFor name label) with
    | .ok r => r
    | .error _ => r) .empty

/-- The registry with each kind under its own name. -/
def registry : Registry Calls Setup :=
  registryOf (labels.map fun label => (label, label))

end Catalogue

end FilterGateway
