import FilterGateway.Json.Basic
import FilterGateway.Toml.Datetime

/-!
# TOML values

The entries of a table keep the order of the document, and a list of tables that was made by headers
is told apart from a list between brackets. A value is turned into JSON with its tables sorted by
key; a double that is not finite becomes `null`, and a moment becomes an object whose one field
holds its normalized text.
-/

namespace FilterGateway.Toml

inductive Value where
  | text (s : String)
  | int (n : Int)
  | float (x : Float)
  | bool (b : Bool)
  | datetime (d : Datetime)
  | list (items : List Value)
  | table (entries : List (String × Value))
  | tables (items : List (List (String × Value)))
deriving Inhabited

/-- The key under which the text of a moment stands. -/
def Datetime.key : String :=
  "$__toml_private_datetime"

namespace Value

mutual

/-- The JSON form of a value. -/
def toJson : Value → Json
  | .text s => .text s
  | .int n => .int n
  | .float x => if x.isFinite then .float x else .null
  | .bool b => .bool b
  | .datetime d => .object [(Datetime.key, .text d.write)]
  | .list items => .list (listToJson items)
  | .table entries => .object (tableToJson entries)
  | .tables items => .list (tablesToJson items)

def listToJson : List Value → List Json
  | [] => []
  | item :: rest => item.toJson :: listToJson rest

def tableToJson : List (String × Value) → Fields
  | [] => []
  | (key, value) :: rest => Table.insert key value.toJson (tableToJson rest)

def tablesToJson : List (List (String × Value)) → List Json
  | [] => []
  | entries :: rest => .object (tableToJson entries) :: tablesToJson rest

end

end Value

end FilterGateway.Toml
