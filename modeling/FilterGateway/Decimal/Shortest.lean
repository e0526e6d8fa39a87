import FilterGateway.Decimal.Scientific

/-!
# Shortest decimals

Among the decimals that read back as a given double, the shortest one lies on the coarsest grid of
powers of ten that has a point in the rounding interval of the double. On that grid the point
nearest to the double is taken. All comparisons are exact, in natural numbers.
-/

namespace FilterGateway.Decimal

/-- Which of two decimals is taken when a double lies in the middle between them. -/
inductive Tie where
  | toEven
  | upward
deriving DecidableEq, Repr

/-- Whether a tie goes to the lower one of two neighbours. -/
def Tie.takesLower (tie : Tie) (lower : Nat) : Bool :=
  match tie with
  | toEven => lower % 2 == 0
  | upward => false

/-- A finite magnitude `mantissa · 2 ^ exponent`. When `narrowBelow` holds the next smaller double
is half as far away as the next larger one. -/
structure Binary where
  mantissa : Nat
  exponent : Int
  narrowBelow : Bool
deriving DecidableEq, Repr

/-- The magnitude of a finite double. -/
def Binary.ofFloat (x : Float) : Binary :=
  let bits := x.toBits.toNat % Nat.pow 2 63
  let fraction := bits % Nat.pow 2 52
  let field : Nat := bits / Nat.pow 2 52
  if field = 0 then ⟨fraction, -1074, false⟩
  else ⟨fraction + Nat.pow 2 52, (field : Int) - 1075, fraction == 0 && 1 < field⟩

namespace Binary

/-- The factors that make quarter units of `b` and units of `10 ^ k` comparable: a count `x` of the
former and a count `d` of the latter agree when `x * left = d * right`. -/
def scales (b : Binary) (k : Int) : Nat × Nat :=
  (Nat.pow 2 (b.exponent - 2).toNat * Nat.pow 10 (-k).toNat,
    Nat.pow 10 k.toNat * Nat.pow 2 (2 - b.exponent).toNat)

/-- Whether `d · 10 ^ k` rounds to `b`. The ends of the interval round to it when the mantissa is
even. -/
def admits (b : Binary) (k : Int) (d : Nat) : Bool :=
  let (left, right) := b.scales k
  let low := (4 * b.mantissa - if b.narrowBelow then 1 else 2) * left
  let high := (4 * b.mantissa + 2) * left
  if b.mantissa % 2 = 0 then low ≤ d * right && d * right ≤ high
  else low < d * right && d * right < high

/-- The point of the grid `10 ^ k` nearest to `b` among its two neighbours that round to `b`; the
one that `tie` names when both are equally near. -/
def nearestOn? (tie : Tie) (b : Binary) (k : Int) : Option Nat :=
  let (left, right) := b.scales k
  let exact := 4 * b.mantissa * left
  let below := exact / right
  let above := below + 1
  match b.admits k below, b.admits k above with
  | false, false => none
  | true, false => some below
  | false, true => some above
  | true, true =>
    let down := exact - below * right
    let up := above * right - exact
    if down < up || (down == up && tie.takesLower below) then some below else some above

/-- The exponents of the grids, coarse ones first. -/
def gridExponents : List Int :=
  (List.range 634).map fun i => 309 - Int.ofNat i

/-- The shortest decimal that rounds to a positive magnitude. -/
def shortest? (tie : Tie) (b : Binary) : Option (Nat × Int) :=
  gridExponents.findSome? fun k => (b.nearestOn? tie k).map (·, k)

end Binary

/-- The shortest decimal that reads back as a finite double. -/
def Scientific.ofFloat (tie : Tie) (x : Float) : Scientific :=
  let negative := decide (Nat.pow 2 63 ≤ x.toBits.toNat)
  match (Binary.ofFloat x).shortest? tie with
  | some (digits, exponent) => ⟨negative, digits, exponent⟩
  | none => ⟨negative, 0, 0⟩

end FilterGateway.Decimal
