import FilterGateway.Text.Hex
import FilterGateway.Toml.Line

/-!
# TOML strings

A string stands between double quotes, with escapes, or between single quotes, without. Between
three quotes of either kind it may run over several lines: a line break right after the opening
quotes does not count, every other one is a line feed, and one or two quotes of the same kind may
stand anywhere, also right before the closing ones.
-/

namespace FilterGateway.Toml

/-- The character whose code point the first `width` characters give. -/
def codePoint? (width : Nat) (cs : List Char) : Option (Char × List Char) := do
  let digits := cs.take width
  guard (digits.length = width)
  let c ← Text.charOf? (← Text.hexNumber? digits)
  some (c, cs.drop width)

/-- The character that an escape stands for, given what follows its backslash. -/
def escape? : List Char → Option (Char × List Char)
  | 'b' :: rest => some ('\x08', rest)
  | 'f' :: rest => some ('\x0c', rest)
  | 'n' :: rest => some ('\n', rest)
  | 'r' :: rest => some ('\r', rest)
  | 't' :: rest => some ('\t', rest)
  | '"' :: rest => some ('"', rest)
  | '\\' :: rest => some ('\\', rest)
  | 'u' :: rest => codePoint? 4 rest
  | 'U' :: rest => codePoint? 8 rest
  | _ => none

/-- The rest of a string on one line; `done` holds its characters in reverse. -/
def lineText? (quote : Char) (escapes : Bool) (fuel : Nat) (done : List Char) (cs : List Char) :
    Option (String × List Char) :=
  match fuel, cs with
  | 0, _ => none
  | _, [] => none
  | fuel + 1, c :: rest =>
    if c = quote then some (String.ofList done.reverse, rest)
    else if escapes ∧ c = '\\' then
      match escape? rest with
      | some (x, rest) => lineText? quote escapes fuel (x :: done) rest
      | none => none
    else if isPlain c then lineText? quote escapes fuel (c :: done) rest
    else none

/-- What follows blanks and line breaks. -/
def skipBreaks : List Char → List Char
  | '\r' :: '\n' :: rest => skipBreaks rest
  | c :: rest => if isBlankChar c || c == '\n' then skipBreaks rest else c :: rest
  | [] => []

/-- What follows a backslash at the end of a line: all blanks and line breaks are left out. -/
def continuation? (cs : List Char) : Option (List Char) :=
  (newline? (skipBlanks cs)).map skipBreaks

/-- The quotes of a run that belong to the string, when the run also closes it. -/
def closingQuotes (run : Nat) : Nat :=
  min (run - 3) 2

/-- The rest of a string over several lines; `done` holds its characters in reverse. -/
def blockText? (quote : Char) (escapes : Bool) (fuel : Nat) (done : List Char) (cs : List Char) :
    Option (String × List Char) :=
  match fuel, cs with
  | 0, _ => none
  | _, [] => none
  | fuel + 1, c :: rest =>
    if c = quote then
      let run := (c :: rest).takeWhile (· == quote)
      if run.length < 3 then
        blockText? quote escapes fuel (run ++ done) ((c :: rest).drop run.length)
      else
        let kept := closingQuotes run.length
        some (String.ofList (List.replicate kept quote ++ done).reverse,
          (c :: rest).drop (kept + 3))
    else if escapes ∧ c = '\\' then
      match continuation? rest with
      | some rest => blockText? quote escapes fuel done rest
      | none =>
        match escape? rest with
        | some (x, rest) => blockText? quote escapes fuel (x :: done) rest
        | none => none
    else
      match newline? (c :: rest) with
      | some rest => blockText? quote escapes fuel ('\n' :: done) rest
      | none => if isPlain c then blockText? quote escapes fuel (c :: done) rest else none

/-- The rest of a string over several lines, after its opening quotes. -/
def block? (quote : Char) (escapes : Bool) (cs : List Char) : Option (String × List Char) :=
  blockText? quote escapes (cs.length + 1) [] ((newline? cs).getD cs)

/-- A string on one line. -/
def lineString? (cs : List Char) : Option (String × List Char) :=
  match cs with
  | '"' :: rest => lineText? '"' true (cs.length + 1) [] rest
  | '\'' :: rest => lineText? '\'' false (cs.length + 1) [] rest
  | _ => none

/-- A string of any kind. -/
def string? (cs : List Char) : Option (String × List Char) :=
  match cs with
  | '"' :: '"' :: '"' :: rest => block? '"' true rest
  | '\'' :: '\'' :: '\'' :: rest => block? '\'' false rest
  | cs => lineString? cs

end FilterGateway.Toml
