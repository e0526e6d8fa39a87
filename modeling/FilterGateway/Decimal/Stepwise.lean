import FilterGateway.Decimal.Scientific

/-!
# Doubles by steps

A quick way from a decimal to a double keeps as many leading digits as fit into a bound, makes a
double of them, and scales it by powers of ten. Every step rounds, so the result may be a few units
away from the nearest double.
-/

namespace FilterGateway.Decimal

/-- The number that `start` and the digits of a text make, as far as it stays within `bound`, and
the rest of the text from the first character that is no digit or leads beyond. -/
def boundedDigits (bound start : Nat) : List Char → Nat × List Char
  | [] => (start, [])
  | c :: rest =>
    let next := 10 * start + (c.toNat - '0'.toNat)
    if c.isDigit && next ≤ bound then boundedDigits bound next rest else (start, c :: rest)

/-- The largest power of ten below the infinite double. -/
def greatestPower : Nat := 308

def powerOfTen (n : Nat) : Float :=
  Float.ofScientific 1 false n

/-- `x · 10 ^ exponent`, one multiplication or division at a time; nothing when it is too large. -/
def scaleByPower? (x : Float) (exponent : Int) : Option Float :=
  if exponent.natAbs ≤ greatestPower then
    if 0 ≤ exponent then
      let y := x * powerOfTen exponent.natAbs
      if y.isInf then none else some y
    else some (x / powerOfTen exponent.natAbs)
  else if x == 0 then some x
  else if 0 ≤ exponent then none
  else scaleByPower? (x / powerOfTen greatestPower) (exponent + greatestPower)
termination_by exponent.natAbs
decreasing_by simp only [greatestPower] at *; omega

/-- The double of a decimal by steps; nothing when it is too large. -/
def Scientific.toFloatByStep? (d : Scientific) : Option Float :=
  (scaleByPower? (UInt64.ofNat d.digits).toFloat d.exponent).map fun x =>
    if d.negative then -x else x

end FilterGateway.Decimal
