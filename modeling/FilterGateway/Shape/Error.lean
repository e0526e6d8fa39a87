import FilterGateway.Decimal.FloatStyle
import FilterGateway.Shape.Basic
import FilterGateway.Text.Quoted

/-!
# Why a value does not fit

A value that does not fit a shape is reported by what was found and what was wanted there. The
texts of the reports differ between the formats only in the way doubles are written.
-/

namespace FilterGateway

open FilterGateway.Decimal

/-- What stood where something else was wanted. -/
inductive Found where
  | null
  | bool (b : Bool)
  | int (n : Int)
  | float (x : Float)
  | text (s : String)
  | sequence
  | map
  | bareVariant

def Found.message (style : FloatStyle) : Found → String
  | .null => "null"
  | .bool b => "boolean `" ++ (if b then "true" else "false") ++ "`"
  | .int n => "integer `" ++ toString n ++ "`"
  | .float x => "floating point `" ++ style.write x ++ "`"
  | .text s => "string " ++ Text.quote s
  | .sequence => "sequence"
  | .map => "map"
  | .bareVariant => "unit variant"

/-- What was wanted. -/
inductive Wanted where
  | unit
  | bool
  | int (w : IntWidth)
  | single
  | double
  | char
  | text
  | sequence
  | map
  | tuple (size : Nat)
  | titled (title : String)
  | textOrMap
  | variantName
  | valueVariant
  | recordVariant
  | singleKey
deriving DecidableEq

def Wanted.message : Wanted → String
  | .unit => "unit"
  | .bool => "a boolean"
  | .int w => w.name
  | .single => "f32"
  | .double => "f64"
  | .char => "a character"
  | .text => "a string"
  | .sequence => "a sequence"
  | .map => "a map"
  | .tuple size => "a tuple of size " ++ toString size
  | .titled title => title
  | .textOrMap => "string or map"
  | .variantName => "variant identifier"
  | .valueVariant => "newtype variant"
  | .recordVariant => "struct variant"
  | .singleKey => "map with a single key"

/-- What a list of the wrong length was wanted to be. -/
inductive WantedLength where
  | tuple (size : Nat)
  | titled (title : String) (size : Nat)
  | fewer
  | exactly (size : Nat)

def WantedLength.message : WantedLength → String
  | .tuple size => "a tuple of size " ++ toString size
  | .titled title size =>
    title ++ " with " ++ toString size ++ (if size = 1 then " element" else " elements")
  | .fewer => "fewer elements in array"
  | .exactly size =>
    toString size ++ (if size = 1 then " element" else " elements") ++ " in sequence"

/-- A list of names to choose from. -/
def oneOf (none : String) : List String → String
  | [] => none
  | [a] => "expected `" ++ a ++ "`"
  | [a, b] => "expected `" ++ a ++ "` or `" ++ b ++ "`"
  | names => "expected one of " ++ ", ".intercalate (names.map fun a => "`" ++ a ++ "`")

/-- A place in a text: a line, and the number of characters before it on that line. -/
structure Place where
  line : Nat
  column : Nat
deriving DecidableEq, Repr

/-- The place after some characters. -/
def Place.after (cs : List Char) : Place :=
  cs.foldl (fun place c =>
    if c = '\n' then ⟨place.line + 1, 0⟩ else ⟨place.line, place.column + 1⟩) ⟨1, 0⟩

def Place.message (place : Place) : String :=
  "line " ++ toString place.line ++ " column " ++ toString place.column

/-- Why a value does not fit a shape. -/
inductive DecodeError where
  | invalidType (found : Found) (wanted : Wanted)
  | invalidValue (found : Found) (wanted : Wanted)
  | invalidLength (length : Nat) (wanted : WantedLength)
  | missingField (name : String)
  | unknownField (name : String) (known : List String)
  | duplicateField (name : String)
  | unknownVariant (name : String) (known : List String)
  | noAlternative (title : String)
  | keyNotNumber
  | numberCutOff
  | numberMalformed
  | numberTooLarge
  | notTextOrTable
  | noVariantGiven
  | severalVariantsGiven
  | payloadNotTable (kind : String)
  | payloadTableNotEmpty
  | payloadTablesNotEmpty
  | located (cause : DecodeError) (place : Place)

/-- The text of a report, with doubles in the style of its format. -/
def DecodeError.message (style : FloatStyle) : DecodeError → String
  | .invalidType found wanted =>
    "invalid type: " ++ found.message style ++ ", expected " ++ wanted.message
  | .invalidValue found wanted =>
    "invalid value: " ++ found.message style ++ ", expected " ++ wanted.message
  | .invalidLength length wanted =>
    "invalid length " ++ toString length ++ ", expected " ++ wanted.message
  | .missingField name => "missing field `" ++ name ++ "`"
  | .unknownField name known =>
    "unknown field `" ++ name ++ "`, " ++ oneOf "there are no fields" known
  | .duplicateField name => "duplicate field `" ++ name ++ "`"
  | .unknownVariant name known =>
    "unknown variant `" ++ name ++ "`, " ++ oneOf "there are no variants" known
  | .noAlternative title => "data did not match any variant of " ++ title
  | .keyNotNumber => "invalid value: expected key to be a number in quotes"
  | .numberCutOff => "EOF while parsing a value"
  | .numberMalformed => "invalid number"
  | .numberTooLarge => "number out of range"
  | .notTextOrTable => "wanted string or table"
  | .noVariantGiven => "wanted exactly 1 element, found 0 elements"
  | .severalVariantsGiven => "wanted exactly 1 element, more than 1 element"
  | .payloadNotTable kind => "expected table, found " ++ kind
  | .payloadTableNotEmpty => "expected empty table"
  | .payloadTablesNotEmpty => "expected empty array"
  | .located cause place => cause.message style ++ " at " ++ place.message

/-- Why a value of a shape has no written form. -/
inductive EncodeError where
  | numberTooLarge
  | keyNotText
  | notTaggable
deriving DecidableEq

def EncodeError.message : EncodeError → String
  | .numberTooLarge => "number out of range"
  | .keyNotText => "key must be a string"
  | .notTaggable => "cannot tag a value that is not an object"

/-- Why options could not be bound. -/
inductive BindError where
  | unwritable (cause : EncodeError)
  | unreadable (cause : DecodeError)

def BindError.message : BindError → String
  | .unwritable cause => cause.message
  | .unreadable cause => cause.message .compact

/-- What a JSON value is found to be. -/
def Json.found : Json → Found
  | .null => .null
  | .bool b => .bool b
  | .int n => .int n
  | .float x => .float x
  | .text s => .text s
  | .list _ => .sequence
  | .object _ => .map

end FilterGateway
