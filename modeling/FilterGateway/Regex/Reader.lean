import FilterGateway.Regex.Basic
import FilterGateway.Text.Alphanumeric

/-!
# Reading regular expressions

A repetition has something before it, groups and sets are closed, and nothing is escaped that has no
meaning. There are no counts of repetitions, since an expression stands between braces itself, and
no tests for what comes before or after.
-/

namespace FilterGateway.Regex

/-! ### Groups -/

/-- What follows an opening parenthesis: flags that close it at once, or the start of a group. -/
inductive Opening where
  | flags (change : FlagChange)
  | group (name? : Option String) (change : FlagChange)
deriving Repr

namespace Opening

def isNameStart (c : Char) : Bool :=
  c == '_' || Text.isAlphabetic c

def isNameRest (c : Char) : Bool :=
  c == '_' || c == '.' || c == '[' || c == ']' || Text.isAlphanumeric c

/-- The name of a group, which an angle bracket ends. -/
def name? (cs : List Char) : Option (Opening × List Char) :=
  let name := cs.takeWhile (· != '>')
  match name, cs.drop name.length with
  | first :: others, _ :: rest =>
    if isNameStart first && others.all isNameRest then
      some (.group (some (String.ofList name)) {}, rest)
    else none
  | _, _ => none

/-- A change of flags, which a parenthesis or a colon ends. Alone, it must change something. -/
def change? (cs : List Char) : Option (Opening × List Char) := do
  let letters := cs.takeWhile fun c => c != ':' && c != ')'
  let change ← FlagChange.read? letters
  match cs.drop letters.length with
  | ':' :: rest => return (.group none change, rest)
  | ')' :: rest => if letters.isEmpty then none else return (.flags change, rest)
  | _ => none

/-- What follows an opening parenthesis. After `?<` an equals sign or an exclamation mark would test
what comes before, and is no name. -/
def read? (verbose : Bool) (cs : List Char) : Option (Opening × List Char) :=
  match skip verbose cs with
  | '?' :: 'P' :: '<' :: rest | '?' :: '<' :: rest => name? rest
  | '?' :: rest => change? rest
  | rest => some (.group none {}, rest)

end Opening

/-! ### Expressions -/

/-- What is open inside a group: the branches that are complete and the parts of the last one, both
with the last first. -/
structure Draft where
  branches : List Regex := []
  parts : List Regex := []

namespace Draft

def push (d : Draft) (part : Regex) : Draft :=
  { d with parts := part :: d.parts }

/-- The part before is repeated. -/
def repeatLast? (d : Draft) : Option Draft :=
  match d.parts with
  | part :: rest =>
    if part.isRepeatable then some { d with parts := .repetition part :: rest } else none
  | [] => none

/-- Starts a new branch. -/
def branch (d : Draft) : Draft :=
  { branches := ofParts d.parts.reverse :: d.branches }

/-- The expression made of what has been read. -/
def close (d : Draft) : Regex :=
  ofBranches d.branch.branches.reverse

end Draft

/-- The atom or the set at the front of a text. -/
def part? (verbose : Bool) : List Char → Option (Regex × List Char)
  | [] => none
  | c :: rest =>
    if c = '[' then (CharSet.read? verbose rest).map fun (s, rest) => (.set s, rest)
    else if c = '\\' then (Atom.escaped? verbose rest).map fun (a, rest) => (.atom a, rest)
    else if c = '.' then some (.atom .dot, rest)
    else if c = '^' ∨ c = '$' then some (.atom .anchor, rest)
    else if c = '{' then none
    else some (.atom (.literal { char := c }), rest)

/-- The inside of a group up to its closing parenthesis or to the end, and the text from there. -/
def inside? (fuel : Nat) (verbose : Bool) (d : Draft) (cs : List Char) :
    Option (Regex × List Char) :=
  match fuel, skip verbose cs with
  | 0, _ => none
  | _, [] => some (d.close, [])
  | _, ')' :: rest => some (d.close, ')' :: rest)
  | fuel + 1, c :: rest =>
    if c = '(' then
      match Opening.read? verbose rest with
      | some (.flags change, rest) =>
        inside? fuel (change.apply .verbose verbose) (d.push (.flags change)) rest
      | some (.group name? change, rest) =>
        match inside? fuel (change.apply .verbose verbose) {} rest with
        | some (inside, ')' :: rest) =>
          inside? fuel verbose (d.push (.group name? change inside)) rest
        | _ => none
      | none => none
    else if c = '|' then inside? fuel verbose d.branch rest
    else if c = '*' ∨ c = '+' ∨ c = '?' then
      let rest := if rest.head? = some '?' then rest.drop 1 else rest
      d.repeatLast?.bind fun d => inside? fuel verbose d rest
    else (part? verbose (c :: rest)).bind fun (part, rest) =>
      inside? fuel verbose (d.push part) rest

/-- The expression that a text stands for. -/
def read? (text : List Char) : Option Regex :=
  match inside? (text.length + 1) false {} text with
  | some (r, []) => some r
  | _ => none

example : (read? "a(b|[c-d])*".toList).any isSupported = true := by decide
example : (read? "a)".toList).isNone ∧ (read? "|*".toList).isNone ∧ (read? "[]".toList).isNone := by
  decide

end FilterGateway.Regex
