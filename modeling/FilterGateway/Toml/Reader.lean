import FilterGateway.Toml.Document
import FilterGateway.Toml.Number
import FilterGateway.Toml.Text

/-!
# Reading TOML

A document is a row of lines: pairs, headers, comments and blank lines. Each function takes a row of
characters and returns what follows the part it has read. Lists and inline tables may be nested to
a fixed depth, and a dotted key has a fixed number of parts.
-/

namespace FilterGateway.Toml

namespace Reader

/-- The levels of lists and inline tables in a value. -/
def maxDepth : Nat := 79

/-- The parts of a dotted key. -/
def maxParts : Nat := 79

def isBareKeyChar (c : Char) : Bool :=
  c.isAlphanum || c == '_' || c == '-'

/-- One part of a key, bare or quoted. -/
def keyPart? (cs : List Char) : Option (String × List Char) :=
  match cs with
  | '"' :: _ | '\'' :: _ => lineString? cs
  | cs =>
    let name := cs.takeWhile isBareKeyChar
    if name.isEmpty then none else some (String.ofList name, cs.dropWhile isBareKeyChar)

/-- The parts of a key, and the blanks around them. -/
def keyParts? : (limit : Nat) → List Char → Option (List String × List Char)
  | 0, _ => none
  | limit + 1, cs => do
    let (part, cs) ← keyPart? (skipBlanks cs)
    match skipBlanks cs with
    | '.' :: rest =>
      let (parts, rest) ← keyParts? limit rest
      some (part :: parts, rest)
    | rest => some ([part], rest)

def key? (cs : List Char) : Option (List String × List Char) :=
  keyParts? maxParts cs

/-- A date, a double or an integer, whichever is found first in this order. -/
def numeral? (cs : List Char) : Option (Value × List Char) :=
  match Datetime.read? cs with
  | some (d, rest) => some (.datetime d, rest)
  | none =>
    match float? cs with
    | some (x, rest) => some (.float x, rest)
    | none => (integer? cs).map fun (n, rest) => (.int n, rest)

/-- A value that is neither a list nor a table. -/
def scalar? (cs : List Char) : Option (Value × List Char) :=
  match cs with
  | '"' :: _ | '\'' :: _ => (string? cs).map fun (s, rest) => (.text s, rest)
  | 't' :: 'r' :: 'u' :: 'e' :: rest => some (.bool true, rest)
  | 'f' :: 'a' :: 'l' :: 's' :: 'e' :: rest => some (.bool false, rest)
  | _ => numeral? cs

/-- The items of a list up to its closing bracket, where `item?` reads one; `done` holds those read
so far in reverse. -/
def items? (item? : List Char → Option (Value × List Char)) (fuel : Nat) (done : List Value)
    (cs : List Char) : Option (List Value × List Char) :=
  match fuel with
  | 0 => none
  | fuel + 1 =>
    match skipLayout cs with
    | ']' :: rest => some (done.reverse, rest)
    | cs => do
      let (item, rest) ← item? cs
      match skipLayout rest with
      | ',' :: rest => items? item? fuel (item :: done) rest
      | ']' :: rest => some ((item :: done).reverse, rest)
      | _ => none

/-- A pair, where `value?` reads its value. -/
def pair? (value? : List Char → Option (Value × List Char)) (cs : List Char) :
    Option ((List String × Value) × List Char) := do
  let (path, cs) ← key? cs
  match cs with
  | '=' :: rest =>
    let (value, rest) ← value? (skipBlanks rest)
    some ((path, value), rest)
  | _ => none

/-- The pairs of an inline table up to its closing brace, the first of which is still to come. -/
def pairs? (value? : List Char → Option (Value × List Char)) (fuel : Nat) (done : Entries)
    (cs : List Char) : Option (Entries × List Char) :=
  match fuel with
  | 0 => none
  | fuel + 1 => do
    let ((path, value), rest) ← pair? value? cs
    let done ← done.define none value path
    match skipBlanks rest with
    | ',' :: rest => pairs? value? fuel done rest
    | '}' :: rest => some (done, rest)
    | _ => none

/-- A value in which lists and inline tables are nested to at most `depth` levels. -/
def valueWithin? : (depth : Nat) → List Char → Option (Value × List Char)
  | 0, cs => scalar? cs
  | depth + 1, cs =>
    match cs with
    | '[' :: rest => (items? (valueWithin? depth) cs.length [] rest).map fun (items, rest) =>
        (.list items, rest)
    | '{' :: rest =>
      match skipBlanks rest with
      | '}' :: rest => some (.table [], rest)
      | rest => (pairs? (valueWithin? depth) cs.length [] rest).map fun (entries, rest) =>
          (.table (entriesToValues entries), rest)
    | cs => scalar? cs

def value? (cs : List Char) : Option (Value × List Char) :=
  valueWithin? maxDepth cs

/-- The document after one line, of which blanks before it have been skipped. -/
def line? (d : Draft) (cs : List Char) : Option (Draft × List Char) :=
  match cs with
  | '[' :: '[' :: rest => do
    let (path, rest) ← key? rest
    match rest with
    | ']' :: ']' :: rest => some (← d.openItem? path, ← lineEnd? rest)
    | _ => none
  | '[' :: rest => do
    let (path, rest) ← key? rest
    match rest with
    | ']' :: rest => some (← d.openTable? path, ← lineEnd? rest)
    | _ => none
  | cs =>
    match lineEnd? cs with
    | some rest => some (d, rest)
    | none => do
      let ((path, value), rest) ← pair? value? cs
      let rest ← lineEnd? rest
      some (← d.define? path value, rest)

/-- The document after all its lines. Each line uses up a part of the text. -/
def lines? (fuel : Nat) (d : Draft) (cs : List Char) : Option Draft :=
  match fuel, skipBlanks cs with
  | _, [] => some d
  | 0, _ => none
  | fuel + 1, cs => do
    let (d, rest) ← line? d cs
    lines? fuel d rest

/-- What follows a byte order mark. -/
def skipMark : List Char → List Char
  | '\uFEFF' :: rest => rest
  | cs => cs

end Reader

/-- The entries of the table that a whole document defines. -/
def read? (s : String) : Option (List (String × Value)) := do
  let cs := Reader.skipMark s.toList
  let d ← Reader.lines? (cs.length + 1) .start cs
  let root ← d.close?
  some (entriesToValues root)

end FilterGateway.Toml
