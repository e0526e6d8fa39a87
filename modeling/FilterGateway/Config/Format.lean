import FilterGateway.Config.Basic
import FilterGateway.Shape.Decode
import FilterGateway.Toml.Value

/-!
# Formats of a configuration

A configuration may be given in JSON or in TOML. A reader of configurations looks at a value one
layer at a time, so the formats share it; they differ in the order of entries, in what they make of
surplus items of a list that stands for a record, and in the ways a policy may be given.
-/

namespace FilterGateway

/-- The outermost layer of a value. -/
inductive Layer (α : Type) where
  | scalar (found : Found)
  | list (items : List α)
  | table (entries : List (String × α))

/-- What a layer is found to be. -/
def Layer.found {α : Type} : Layer α → Found
  | .scalar found => found
  | .list _ => .sequence
  | .table _ => .map

/-- How values of a format are looked at. -/
structure Format (α : Type) where
  layer : α → Layer α
  toJson : α → Json
  policy : α → Except DecodeError ReloadPolicy
  refusesSurplus : Bool

/-- The policy with a name. -/
def ReloadPolicy.decodeName (name : String) : Except DecodeError ReloadPolicy :=
  match ofName? name with
  | some policy => .ok policy
  | none => .error (.unknownVariant name (all.map ReloadPolicy.name))

namespace Format

/-! ### JSON -/

def jsonLayer : Json → Layer Json
  | .list items => .list items
  | .object fields => .table fields
  | value => .scalar value.found

/-- A policy in JSON is given by its name, or by an object whose one field is named so and is
`null`. -/
def jsonPolicy : Json → Except DecodeError ReloadPolicy
  | .text name => ReloadPolicy.decodeName name
  | .object [(name, payload)] =>
    match ReloadPolicy.decodeName name, payload with
    | .error e, _ => .error e
    | .ok policy, .null => .ok policy
    | .ok _, payload => .error (.invalidType payload.found .unit)
  | .object _ => .error (.invalidValue .map .singleKey)
  | value => .error (.invalidType value.found .textOrMap)

def json : Format Json where
  layer := jsonLayer
  toJson := id
  policy := jsonPolicy
  refusesSurplus := true

/-! ### TOML -/

open Toml in
/-- A moment counts as a table with one entry. -/
def tomlLayer : Toml.Value → Layer Toml.Value
  | .text s => .scalar (.text s)
  | .int n => .scalar (.int n)
  | .float x => .scalar (.float x)
  | .bool b => .scalar (.bool b)
  | .datetime d => .table [(Datetime.key, .text d.write)]
  | .list items => .list items
  | .table entries => .table entries
  | .tables items => .list (items.map .table)

/-- What may stand under the name of a policy: an empty table or an empty list. -/
def tomlPolicyPayload : Toml.Value → Except DecodeError Unit
  | .table [] | .list [] | .tables [] => .ok ()
  | .table _ | .list _ => .error .payloadTableNotEmpty
  | .tables _ => .error .payloadTablesNotEmpty
  | .text _ => .error (.payloadNotTable "string")
  | .int _ => .error (.payloadNotTable "integer")
  | .float _ => .error (.payloadNotTable "float")
  | .bool _ => .error (.payloadNotTable "boolean")
  | .datetime _ => .error (.payloadNotTable "datetime")

/-- A policy in TOML is given by its name, or by a table whose one entry is named so and empty. -/
def tomlPolicy : Toml.Value → Except DecodeError ReloadPolicy
  | .text name => ReloadPolicy.decodeName name
  | .table [] => .error .noVariantGiven
  | .table [(name, payload)] => do
    let policy ← ReloadPolicy.decodeName name
    tomlPolicyPayload payload
    pure policy
  | .table _ => .error .severalVariantsGiven
  | _ => .error .notTextOrTable

def toml : Format Toml.Value where
  layer := tomlLayer
  toJson := Toml.Value.toJson
  policy := tomlPolicy
  refusesSurplus := false

end Format

end FilterGateway
