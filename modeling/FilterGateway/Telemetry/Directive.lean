import FilterGateway.Decimal.Scientific
import FilterGateway.Telemetry.Pattern
import FilterGateway.Text.Alphanumeric
import FilterGateway.Text.Blank

/-!
# Directives of a log

A directive says how verbose a component may be. It is a level, or the start of a component's name,
brackets with a span, and an equals sign with a level, of which each may be left out. Inside the
brackets, braces ask for a field, or for a field with a value.

White space around a directive does not count when its parts are located, but the parts are then
cut out of the whole text at these offsets. So white space at the front shifts all parts, and white
space at the end belongs to the last one.
-/

namespace FilterGateway

/-- The field that an event must have, and the pattern that its value must fit. -/
structure FieldCondition where
  name : String
  value? : Option String := none
deriving DecidableEq, Repr

/-- How verbose components whose names start with `target` may be inside a span and with a field; 0
keeps them silent. -/
structure Directive where
  target : String := ""
  span? : Option String := none
  field? : Option FieldCondition := none
  verbosity : Nat
deriving DecidableEq, Repr

/-- Why a text is no directive: it has not the form of one, or white space at its front shifts a
part to begin or end inside a character. The second fault cannot be passed over. -/
inductive DirectiveError where
  | malformed
  | splitCharacter
deriving DecidableEq, Repr

namespace Directive

/-! ### Levels -/

/-- The verbosities by name. -/
def verbosityNames : List (String × Nat) :=
  [("off", 0), ("error", 1), ("warn", 2), ("info", 3), ("debug", 4), ("trace", 5), ("", 1)]

/-- The verbosity of a directive that names no level. -/
def greatestVerbosity : Nat := 5

/-- The number that decimal digits stand for, with a plus sign or without. -/
def decimal? (text : String) : Option Nat :=
  let digits :=
    match text.toList with
    | '+' :: rest => rest
    | cs => cs
  if !digits.isEmpty && digits.all Char.isDigit then some (Decimal.natOfDigits digits) else none

/-- The verbosity that a text names, in any case, or gives as a number. -/
def verbosity? (text : String) : Option Nat :=
  match (verbosityNames.find? fun entry => entry.1 == text.toLower).map (·.2) with
  | some verbosity => some verbosity
  | none => (decimal? text).filter (· ≤ greatestVerbosity)

/-! ### Parts -/

def byteCount (cs : List Char) : Nat :=
  (String.ofList cs).utf8ByteSize

/-- The bytes of a text from one offset to another. -/
def cut (text : String) (first last : Nat) : Except DirectiveError String :=
  match String.fromUTF8? (text.toUTF8.extract first last) with
  | some part => .ok part
  | none => .error .splitCharacter

def trimmed (text : String) : List Char :=
  ((text.toList.dropWhile Text.isSpaceChar).reverse.dropWhile Text.isSpaceChar).reverse

/-- Whether a directive may start with a character. -/
def canStart (c : Char) : Bool :=
  c == '-' || c == ':' || c == '_' || Text.isAlphanumeric c

/-- The condition between braces. -/
def condition (text : String) : Except DirectiveError FieldCondition :=
  match text.splitOn "=" with
  | name :: value :: _ =>
    if isFieldPattern value then .ok { name, value? := some value } else .error .malformed
  | _ => if text = "" then .error .malformed else .ok { name := text }

/-- The directive with what `inside`, the characters after an opening bracket, says about spans and
fields, and the characters after the closing one. -/
def bracket (text : String) (offset : Nat) (d : Directive) (inside : List Char) :
    Except DirectiveError (Directive × List Char) := do
  let name := inside.takeWhile fun c => c != ']' && c != '{'
  let stop := offset + byteCount name
  match inside.drop name.length with
  | ']' :: rest => return ({ d with span? := some (← cut text offset stop) }, rest)
  | '{' :: inside =>
    let span ← cut text offset stop
    let d := { d with span? := if span = "" then none else some span }
    let written := inside.takeWhile (· != '}')
    match inside.drop written.length with
    | '}' :: rest =>
      let field ← condition (← cut text (stop + 1) (stop + 1 + byteCount written))
      match rest with
      | ']' :: rest => return ({ d with field? := some field }, rest)
      | _ => throw .malformed
    | _ => throw .malformed
  | _ => throw .malformed

/-- The directive with the level after an equals sign, if there is one. -/
def level (text : String) (offset : Nat) (d : Directive) :
    List Char → Except DirectiveError Directive
  | [] => .ok d
  | '=' :: _ => do
    let level ← cut text (offset + 1) text.utf8ByteSize
    if level = "" then return d
    match verbosity? level with
    | some verbosity => return { d with verbosity }
    | none => throw .malformed
  | _ => .error .malformed

/-- The directive that a text without brackets and level stands for. -/
def bare (text : String) : Directive :=
  match verbosity? text with
  | some verbosity => { verbosity }
  | none => { target := text, verbosity := greatestVerbosity }

/-- The directive that a text stands for. -/
def read (text : String) : Except DirectiveError Directive := do
  let cs := trimmed text
  if !(cs.head?.any fun c => c == '[' || canStart c) then throw .malformed
  let name := cs.takeWhile fun c => c != '=' && c != '['
  let stop := byteCount name
  match cs.drop name.length with
  | [] => return bare text
  | next :: rest =>
    let d : Directive := { target := ← cut text 0 stop, verbosity := greatestVerbosity }
    if next = '[' then
      let (d, rest) ← bracket text (stop + 1) d rest
      level text (byteCount cs - byteCount rest) d rest
    else level text stop d (next :: rest)

/-! ### Events -/

/-- Whether a directive is about events at all: one about a span, or about the value of a field, is
not. -/
def concernsEvents (d : Directive) : Bool :=
  d.span?.isNone && d.field?.all fun field => field.value?.isNone

/-- Whether a directive is about the events of a component with certain fields. -/
def applies (d : Directive) (target : String) (fields : List String) : Bool :=
  d.concernsEvents && target.startsWith d.target &&
    d.field?.all fun field => fields.contains field.name

/-- Whether a directive gives way to another: the one with the longer name decides, then the one
that asks for a field, then the one whose field comes last. -/
def yieldsTo (d other : Directive) : Bool :=
  let size := d.target.utf8ByteSize
  let otherSize := other.target.utf8ByteSize
  if size != otherSize then size < otherSize
  else
    match d.field?, other.field? with
    | none, none | some _, none => false
    | none, some _ => true
    | some field, some other => field.name < other.name

end Directive

end FilterGateway
