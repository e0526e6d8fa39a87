import FilterGateway.Regex.Flag
import FilterGateway.Text.Blank
import FilterGateway.Text.Hex

/-!
# Atoms of regular expressions

An atom is a literal character, a dot, a shorthand for a set of characters, an anchor, or a test for
the boundary of a word. Most are written with a backslash.

There are no tables of properties of characters. So with the flag `unicode`, shorthands, boundaries
of words and literals without regard to case are not supported. Without it, an expression may not
fit a part of a character: dots and shorthands for all but some characters are not supported, and
neither are bytes that are no ASCII characters.
-/

namespace FilterGateway.Regex

/-! ### Spacing -/

/-- The text after white space and comments, which go from a number sign to the end of the line. -/
def dropSpacing (inComment : Bool) : List Char → List Char
  | [] => []
  | c :: rest =>
    if inComment then dropSpacing (c != '\n') rest
    else if Text.isSpaceChar c then dropSpacing false rest
    else if c = '#' then dropSpacing true rest
    else c :: rest

/-- The text from where it counts: verbose spelling leaves out white space and comments. -/
def skip (verbose : Bool) (cs : List Char) : List Char :=
  if verbose then dropSpacing false cs else cs

example : skip true " # one\n two".toList = "two".toList := by decide

/-! ### Literals -/

/-- A literal character, or a byte when it is written as two hexadecimal digits. -/
structure Literal where
  char : Char
  isByte : Bool := false
deriving DecidableEq, Repr

namespace Literal

def isAscii (l : Literal) : Bool :=
  l.char.toNat < 0x80

/-- Whether a literal is supported where it stands alone. -/
def isSupported (mode : Mode) (l : Literal) : Bool :=
  if mode.unicode then !mode.ignoreCase else l.isAscii || !l.isByte

/-- Whether a literal is supported in a set of characters. -/
def isSupportedInSet (mode : Mode) (l : Literal) : Bool :=
  if mode.unicode then !mode.ignoreCase else l.isAscii

end Literal

/-! ### Atoms -/

inductive Atom where
  | literal (l : Literal)
  | dot
  | shorthand (negated : Bool)
  | anchor
  | wordBoundary
deriving DecidableEq, Repr

namespace Atom

def isSupported (mode : Mode) : Atom → Bool
  | .literal l => l.isSupported mode
  | .dot => mode.unicode
  | .shorthand negated => !mode.unicode && !negated
  | .anchor => true
  | .wordBoundary => !mode.unicode

/-- The number that so many hexadecimal digits give, after the number given by those before them. -/
def hexDigits? (verbose : Bool) (value : Nat) : Nat → List Char → Option (Nat × List Char)
  | 0, cs => some (value, cs)
  | count + 1, cs =>
    match skip verbose cs with
    | [] => none
    | c :: rest =>
      (Text.hexValue? c).bind fun digit => hexDigits? verbose (16 * value + digit) count rest

/-- The character whose code point is written with so many hexadecimal digits. -/
def codePoint? (verbose : Bool) (count : Nat) (cs : List Char) : Option (Char × List Char) := do
  let (value, rest) ← hexDigits? verbose 0 count cs
  return (← Text.charOf? value, rest)

/-- The control characters that have a letter. -/
def controlLetters : List (Char × Char) :=
  [('a', '\x07'), ('t', '\t'), ('n', '\n'), ('v', '\x0b'), ('f', '\x0c'), ('r', '\r')]

/-- Whether a backslash takes the meaning from a character: from every ASCII character but letters,
digits and angle brackets. -/
def isEscapable (c : Char) : Bool :=
  c.toNat < 0x80 && !c.isAlphanum && c != '<' && c != '>'

/-- The atom that a letter or a sign after a backslash stands for. -/
def ofEscaped? (c : Char) : Option Atom :=
  if c ∈ ['d', 's', 'w'] then some (.shorthand false)
  else if c ∈ ['D', 'S', 'W'] then some (.shorthand true)
  else if c ∈ ['A', 'z'] then some .anchor
  else if c ∈ ['b', 'B', '<', '>'] then some .wordBoundary
  else if isEscapable c then some (.literal { char := c })
  else (controlLetters.lookup c).map fun char => .literal { char }

/-- The atom after a backslash, and the rest of the text. -/
def escaped? (verbose : Bool) : List Char → Option (Atom × List Char)
  | [] => none
  | 'x' :: rest =>
    (codePoint? verbose 2 rest).map fun (char, rest) => (.literal { char, isByte := true }, rest)
  | 'u' :: rest => (codePoint? verbose 4 rest).map fun (char, rest) => (.literal { char }, rest)
  | 'U' :: rest => (codePoint? verbose 8 rest).map fun (char, rest) => (.literal { char }, rest)
  | c :: rest => (ofEscaped? c).map (·, rest)

example : escaped? false "x41b".toList = some (.literal ⟨'A', true⟩, ['b']) := by decide
example : escaped? false "ud800".toList = none ∧ escaped? false "p".toList = none := by decide

end Atom

end FilterGateway.Regex
