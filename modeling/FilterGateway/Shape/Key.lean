import FilterGateway.Decimal.Stepwise
import FilterGateway.Shape.Error

/-!
# Keys of maps

The keys of an object are texts. A map with integer keys reads a key as a JSON number. A number
with a fraction, an exponent or more than 64 bits is a double that is found by steps. A number that
is malformed or does not fit is reported by the place where reading stopped.
-/

namespace FilterGateway

open FilterGateway.Decimal

namespace KeyNumber

/-- A number while it is read: the significand, which has at most 64 bits, the power of ten that it
is scaled by, and whether it is a double. -/
structure Draft where
  significand : Nat
  exponent : Int := 0
  isDouble : Bool := false

/-- The bound of significands. -/
def significandBound : Nat := 18446744073709551615

/-- The bound of written exponents. -/
def exponentBound : Nat := 2147483647

/-- An error at the place after the first `read` characters of a key. -/
def stop {α : Type} (key : List Char) (cause : DecodeError) (read : Nat) : Except DecodeError α :=
  .error (.located cause (Place.after (key.take read)))

/-- The error for `rest`, of which at least the first character should have been a digit. -/
def noDigit {α : Type} (key rest : List Char) : Except DecodeError α :=
  match rest with
  | [] => stop key .numberCutOff key.length
  | _ => stop key .numberMalformed (key.length - rest.length + 1)

/-- The digits before the point. Those that do not fit into the significand only count. -/
def whole (key rest : List Char) : Except DecodeError (Draft × List Char) :=
  match rest with
  | '0' :: c :: _ =>
    if c.isDigit then stop key .numberMalformed (key.length - rest.length + 2)
    else .ok ({ significand := 0 }, rest.drop 1)
  | c :: _ =>
    if c.isDigit then
      let (significand, rest) := boundedDigits significandBound 0 rest
      let surplus := rest.takeWhile Char.isDigit
      .ok ({ significand, exponent := surplus.length, isDouble := !surplus.isEmpty },
        rest.dropWhile Char.isDigit)
    else noDigit key rest
  | [] => noDigit key rest

/-- The digits after a point. Those that do not fit into the significand are dropped. -/
def fraction (key : List Char) (draft : Draft) (rest : List Char) :
    Except DecodeError (Draft × List Char) :=
  match rest with
  | '.' :: digits =>
    if digits.head?.any Char.isDigit then
      let (significand, rest) := boundedDigits significandBound draft.significand digits
      let exponent := draft.exponent - (digits.length - rest.length : Nat)
      .ok ({ significand, exponent, isDouble := true }, rest.dropWhile Char.isDigit)
    else noDigit key digits
  | _ => .ok (draft, rest)

/-- The sign of an exponent. -/
def sign : List Char → Bool × List Char
  | '-' :: rest => (true, rest)
  | '+' :: rest => (false, rest)
  | rest => (false, rest)

/-- The exponent after an `e`. One beyond its bound makes the number too large or zero. -/
def power (key : List Char) (draft : Draft) (rest : List Char) :
    Except DecodeError (Draft × List Char) :=
  match rest with
  | 'e' :: rest | 'E' :: rest =>
    let (negative, digits) := sign rest
    if digits.head?.any Char.isDigit then
      let (n, rest) := boundedDigits exponentBound 0 digits
      if rest.head?.any Char.isDigit then
        if draft.significand ≠ 0 ∧ ¬negative then
          stop key .numberTooLarge (key.length - rest.length + 1)
        else .ok ({ significand := 0, isDouble := true }, rest.dropWhile Char.isDigit)
      else
        let exponent := draft.exponent + (if negative then -(n : Int) else n)
        .ok ({ draft with exponent, isDouble := true }, rest)
    else noDigit key digits
  | _ => .ok (draft, rest)

/-- The number that a sign and a draft make. Below `-2 ^ 63` and for a negative zero it is a
double. -/
def value? (negative : Bool) (draft : Draft) : Option Json :=
  let signed : Int := if negative then -(draft.significand : Int) else draft.significand
  if draft.isDouble ∨ (negative ∧ ¬(signed < 0 ∧ IntWidth.i64.admits signed)) then
    (Scientific.toFloatByStep? ⟨negative, draft.significand, draft.exponent⟩).map .float
  else some (.int signed)

/-- The number at the start of a key, and what follows it. -/
def number (key : List Char) : Except DecodeError (Json × List Char) := do
  let (negative, body) :=
    match key with
    | '-' :: rest => (true, rest)
    | _ => (false, key)
  let (draft, rest) ← whole key body
  let (draft, rest) ← fraction key draft rest
  let (draft, rest) ← power key draft rest
  match value? negative draft with
  | some value => pure (value, rest)
  | none => stop key .numberTooLarge (key.length - rest.length)

end KeyNumber

namespace KeyShape

/-- The integer that a key stands for. -/
def decodeInt (w : IntWidth) (key : String) : Except DecodeError (Ranged w) := do
  let cs := key.toList
  if !(cs.head?.any fun c => c.isDigit || c == '-') then throw .keyNotNumber
  let (value, rest) ← KeyNumber.number cs
  let place := Place.after (cs.take (cs.length - rest.length))
  match value with
  | .int n =>
    match Ranged.ofInt? w n with
    | some n => if rest.isEmpty then pure n else throw .keyNotNumber
    | none => throw (.located (.invalidValue (.int n) (.int w)) place)
  | value => throw (.located (.invalidType value.found (.int w)) place)

/-- The key that a text stands for. -/
def decode : (k : KeyShape) → String → Except DecodeError k.Value
  | .text, key => .ok key
  | .int w, key => decodeInt w key
  | .pair, key => .error (.invalidType (.text key) (.tuple 2))

/-- The text that stands for a key. -/
def encode : (k : KeyShape) → k.Value → Except EncodeError String
  | .text, key => .ok key
  | .int _, n => .ok (toString n.val)
  | .pair, _ => .error .keyNotText

end KeyShape

end FilterGateway
