/-!
# Flags of regular expressions

Flags are switched on, and after a hyphen off, at the start of a group or between parentheses of
their own. Of all flags only two decide whether an expression is supported; a third one, verbose
spelling, decides how the text after it is read.
-/

namespace FilterGateway.Regex

inductive Flag where
  | ignoreCase
  | lineAnchors
  | dotMatchesNewline
  | swapGreed
  | unicode
  | crlf
  | verbose
deriving DecidableEq, Repr

/-- The flag that a letter stands for. -/
def Flag.ofLetter? : Char → Option Flag
  | 'i' => some .ignoreCase
  | 'm' => some .lineAnchors
  | 's' => some .dotMatchesNewline
  | 'U' => some .swapGreed
  | 'u' => some .unicode
  | 'R' => some .crlf
  | 'x' => some .verbose
  | _ => none

/-- The flags that are switched on and those that are switched off. -/
structure FlagChange where
  on : List Flag := []
  off : List Flag := []
deriving DecidableEq, Repr

namespace FlagChange

/-- The state of a flag after a change, given the one before it. -/
def apply (change : FlagChange) (flag : Flag) (before : Bool) : Bool :=
  if flag ∈ change.on then true else if flag ∈ change.off then false else before

/-- The change that a text asks for. Nothing in it may stand twice, and a hyphen may not be its end.
-/
def read? (letters : List Char) : Option FlagChange := do
  let on := letters.takeWhile (· != '-')
  let off := (letters.drop on.length).drop 1
  if !letters.Nodup || letters.getLast? = some '-' then none
  else return { on := ← on.mapM Flag.ofLetter?, off := ← off.mapM Flag.ofLetter? }

example : read? "i-x".toList = some { on := [.ignoreCase], off := [.verbose] } := by decide
example : read? "i-i".toList = none ∧ read? "i-".toList = none := by decide

end FlagChange

/-- The flags that decide whether a part of an expression is supported. -/
structure Mode where
  ignoreCase : Bool := false
  unicode : Bool := true
deriving DecidableEq, Repr

def Mode.change (mode : Mode) (change : FlagChange) : Mode where
  ignoreCase := change.apply .ignoreCase mode.ignoreCase
  unicode := change.apply .unicode mode.unicode

end FilterGateway.Regex
