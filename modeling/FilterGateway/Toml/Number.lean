import FilterGateway.Decimal.Scientific
import FilterGateway.IntWidth
import FilterGateway.Text.Hex

/-!
# TOML numbers

Integers have 64 bits and a sign; one with a base has no sign. Single underscores may stand between
digits. A number with a fraction or an exponent is the nearest double; one too large for any finite
double is refused when it is positive and is minus infinity when it is negative.
-/

namespace FilterGateway.Toml

open FilterGateway.Decimal

/-- The digits that go on a number, and what follows them. -/
def moreDigits (isDigit : Char → Bool) : List Char → List Char × List Char
  | '_' :: d :: rest =>
    if isDigit d then
      let (digits, rest) := moreDigits isDigit rest
      (d :: digits, rest)
    else ([], '_' :: d :: rest)
  | d :: rest =>
    if isDigit d then
      let (digits, rest) := moreDigits isDigit rest
      (d :: digits, rest)
    else ([], d :: rest)
  | [] => ([], [])

/-- The digits of a number, of which there is at least one. -/
def digits? (isDigit : Char → Bool) : List Char → Option (List Char × List Char)
  | d :: rest =>
    if isDigit d then
      let (digits, rest) := moreDigits isDigit rest
      some (d :: digits, rest)
    else none
  | [] => none

/-- Digits that do not start with a superfluous zero. -/
def wholeDigits? : List Char → Option (List Char × List Char)
  | '0' :: rest => some (['0'], rest)
  | cs => digits? Char.isDigit cs

/-- Whether a minus sign stands here, and what follows the sign. -/
def readSign : List Char → Bool × List Char
  | '-' :: rest => (true, rest)
  | '+' :: rest => (false, rest)
  | cs => (false, cs)

/-- The value of a digit in a base of at most sixteen. -/
def digitValue? (base : Nat) (c : Char) : Option Nat :=
  (Text.hexValue? c).filter (· < base)

/-- The number that digits of a base stand for. -/
def natOfDigitsIn (base : Nat) (cs : List Char) : Nat :=
  cs.foldl (fun n c => base * n + (digitValue? base c).getD 0) 0

/-- An integer that has 64 bits. -/
def int64? (n : Int) : Option Int :=
  if IntWidth.i64.admits n then some n else none

/-- An integer written in a base. -/
def basedInt? (base : Nat) (cs : List Char) : Option (Int × List Char) := do
  let (digits, rest) ← digits? (fun c => (digitValue? base c).isSome) cs
  let n ← int64? (natOfDigitsIn base digits)
  some (n, rest)

def integer? (cs : List Char) : Option (Int × List Char) :=
  match cs with
  | '0' :: 'x' :: rest => basedInt? 16 rest
  | '0' :: 'o' :: rest => basedInt? 8 rest
  | '0' :: 'b' :: rest => basedInt? 2 rest
  | cs => do
    let (negative, cs) := readSign cs
    let (digits, rest) ← wholeDigits? cs
    let magnitude : Int := natOfDigits digits
    let n ← int64? (if negative then -magnitude else magnitude)
    some (n, rest)

/-- The digits after a decimal point, if there is one. -/
def fraction? : List Char → Option (Option (List Char) × List Char)
  | '.' :: rest => (digits? Char.isDigit rest).map fun (digits, rest) => (some digits, rest)
  | cs => some (none, cs)

/-- The power of ten after an `e`, if there is one. -/
def power? (cs : List Char) : Option (Option Int × List Char) :=
  match cs with
  | 'e' :: rest | 'E' :: rest => do
    let (negative, rest) := readSign rest
    let (digits, rest) ← digits? Char.isDigit rest
    let n : Int := natOfDigits digits
    some (some (if negative then -n else n), rest)
  | _ => some (none, cs)

def special? : List Char → Option (Float × List Char)
  | 'i' :: 'n' :: 'f' :: rest => some (1.0 / 0.0, rest)
  | 'n' :: 'a' :: 'n' :: rest => some (0.0 / 0.0, rest)
  | _ => none

/-- A number with a fraction or an exponent. -/
def decimal? (negative : Bool) (cs : List Char) : Option (Float × List Char) := do
  let (whole, cs) ← wholeDigits? cs
  let (fraction?, cs) ← fraction? cs
  let (power?, cs) ← power? cs
  guard (fraction?.isSome || power?.isSome)
  let fraction := fraction?.getD []
  let x := Scientific.toFloat
    ⟨negative, natOfDigits (whole ++ fraction), power?.getD 0 - fraction.length⟩
  guard (!(x == 1.0 / 0.0))
  some (x, cs)

def float? (cs : List Char) : Option (Float × List Char) :=
  let (negative, cs) := readSign cs
  match special? cs with
  | some (x, rest) => some (if negative then -x else x, rest)
  | none => decimal? negative cs

end FilterGateway.Toml
