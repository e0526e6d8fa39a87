/-!
# Decimal numbers

A decimal number is a natural number of units of a power of ten, with a sign. Readers of numbers
produce it and printers of numbers consume it; its value as a double is the nearest one.
-/

namespace FilterGateway.Decimal

/-- The number `±digits · 10 ^ exponent`. -/
structure Scientific where
  negative : Bool
  digits : Nat
  exponent : Int
deriving DecidableEq, Repr

/-- The value of a row of decimal digits. -/
def natOfDigits (cs : List Char) : Nat :=
  cs.foldl (fun n c => 10 * n + (c.toNat - '0'.toNat)) 0

/-- The decimal digits of `n`, `0` for zero. -/
def digitsOfNat (n : Nat) : List Char :=
  Nat.toDigits 10 n

namespace Scientific

/-- The double nearest to a decimal, ties to even. A magnitude outside the range of doubles is
settled by its number of digits before the power of ten is computed. -/
def toFloat (d : Scientific) : Float :=
  let reach : Int := (digitsOfNat d.digits).length + d.exponent
  let magnitude :=
    if d.digits = 0 ∨ reach < -330 then 0.0
    else if 320 < reach then 1.0 / 0.0
    else Float.ofScientific d.digits (decide (d.exponent < 0)) d.exponent.natAbs
  if d.negative then -magnitude else magnitude

end Scientific

end FilterGateway.Decimal
