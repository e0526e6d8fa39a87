import FilterGateway.Decimal.Shortest

/-!
# Writing doubles

A double is written with the fewest digits that read back, and always with a fraction or an
exponent, so that it is told apart from an integer.
-/

namespace FilterGateway.Decimal

/-- The powers of ten of the first digit for which a number is written without an exponent, where
`none` leaves the range open, and the choice between two decimals that are equally near. -/
structure FloatStyle where
  least? : Option Int
  most? : Option Int
  tie : Tie
deriving DecidableEq, Repr

namespace FloatStyle

/-- Positional between `10 ^ -5` and `10 ^ 16`, a signed exponent elsewhere; ties go to even. -/
def compact : FloatStyle := ⟨some (-5), some 15, .toEven⟩

/-- Positional at every magnitude; ties go to the larger decimal. -/
def positional : FloatStyle := ⟨none, none, .upward⟩

def isPositional (style : FloatStyle) (power : Int) : Bool :=
  style.least?.all (· ≤ power) && style.most?.all (power ≤ ·)

/-- A row of digits with the decimal point after the first `point` of them. -/
def placePoint (digits : List Char) (point : Int) : List Char :=
  if point ≤ 0 then
    ['0', '.'] ++ List.replicate (-point).toNat '0' ++ digits
  else
    let whole := digits.take point.toNat
    let fraction := digits.drop point.toNat
    whole ++ List.replicate (point.toNat - whole.length) '0' ++
      ['.'] ++ (if fraction.isEmpty then ['0'] else fraction)

/-- A row of digits with the point after the first one and a power of ten. -/
def placePower (digits : List Char) (power : Int) : List Char :=
  digits.take 1 ++ (if digits.length ≤ 1 then [] else '.' :: digits.drop 1) ++
    ['e', if power < 0 then '-' else '+'] ++ digitsOfNat power.natAbs

/-- The text of a decimal number. -/
def writeDecimal (style : FloatStyle) (d : Scientific) : String :=
  let digits := digitsOfNat d.digits
  let power : Int := digits.length + d.exponent - 1
  let body :=
    if d.digits = 0 then ['0', '.', '0']
    else if style.isPositional power then placePoint digits (power + 1)
    else placePower digits power
  String.ofList (if d.negative then '-' :: body else body)

/-- The text of a double. -/
def write (style : FloatStyle) (x : Float) : String :=
  if x.isNaN then "NaN"
  else if x.isInf then (if x < 0 then "-inf" else "inf")
  else style.writeDecimal (Scientific.ofFloat style.tie x)

end FloatStyle

end FilterGateway.Decimal
