import FilterGateway.Decimal.FloatStyle
import FilterGateway.Json.Basic
import FilterGateway.Text.Quoted

/-!
# Writing JSON

A value is written on one line, or over several lines with two blanks for each level. Characters
outside ASCII stand for themselves; a double that is not finite has no JSON form and is `null`.
-/

namespace FilterGateway.Json

open FilterGateway.Decimal

/-- One character inside a JSON string. -/
def escapeChar (c : Char) : String :=
  if c = '"' then "\\\""
  else if c = '\\' then "\\\\"
  else if c = '\n' then "\\n"
  else if c = '\r' then "\\r"
  else if c = '\t' then "\\t"
  else if c = '\x08' then "\\b"
  else if c = '\x0c' then "\\f"
  else if c.toNat < 0x20 then
    let digits := Text.hexDigits c.toNat
    "\\u" ++ String.ofList (List.replicate (4 - digits.length) '0') ++ digits
  else c.toString

def writeText (s : String) : String :=
  "\"" ++ String.join (s.toList.map escapeChar) ++ "\""

def writeFloat (x : Float) : String :=
  if x.isFinite then FloatStyle.compact.write x else "null"

mutual

/-- The text of a value on one line. -/
def compress : Json → String
  | .null => "null"
  | .bool b => if b then "true" else "false"
  | .int n => toString n
  | .float x => writeFloat x
  | .text s => writeText s
  | .list items => "[" ++ ",".intercalate (compressItems items) ++ "]"
  | .object fields => "\x7b" ++ ",".intercalate (compressFields fields) ++ "\x7d"

def compressItems : List Json → List String
  | [] => []
  | item :: rest => compress item :: compressItems rest

def compressFields : List (String × Json) → List String
  | [] => []
  | (key, value) :: rest => (writeText key ++ ":" ++ compress value) :: compressFields rest

end

/-- The blanks before a line at a level. -/
def indent (level : Nat) : String :=
  String.ofList (List.replicate (2 * level) ' ')

/-- Lines between two brackets, each on a line of its own. -/
def writeBlock (level : Nat) (opening closing : String) (lines : List String) : String :=
  if lines.isEmpty then opening ++ closing
  else
    opening ++ "\n" ++ ",\n".intercalate (lines.map (indent (level + 1) ++ ·)) ++ "\n" ++
      indent level ++ closing

mutual

/-- The text of a value at a level of nesting, over several lines. -/
def prettyAt (level : Nat) : Json → String
  | .list items => writeBlock level "[" "]" (prettyItems (level + 1) items)
  | .object fields => writeBlock level "\x7b" "\x7d" (prettyFields (level + 1) fields)
  | value => compress value

def prettyItems (level : Nat) : List Json → List String
  | [] => []
  | item :: rest => prettyAt level item :: prettyItems level rest

def prettyFields (level : Nat) : List (String × Json) → List String
  | [] => []
  | (key, value) :: rest =>
    (writeText key ++ ": " ++ prettyAt level value) :: prettyFields level rest

end

/-- The text of a value over several lines. -/
def pretty (value : Json) : String :=
  prettyAt 0 value

end FilterGateway.Json
