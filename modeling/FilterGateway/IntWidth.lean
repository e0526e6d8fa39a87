/-!
# Integers of a fixed width

The width of an integer says how many bits it has and whether it may be negative.
-/

namespace FilterGateway

/-- The widths of integers. -/
inductive IntWidth where
  | i8 | i16 | i32 | i64 | i128 | u8 | u16 | u32 | u64 | u128
deriving DecidableEq, Repr

namespace IntWidth

def name : IntWidth → String
  | i8 => "i8" | i16 => "i16" | i32 => "i32" | i64 => "i64" | i128 => "i128"
  | u8 => "u8" | u16 => "u16" | u32 => "u32" | u64 => "u64" | u128 => "u128"

def low : IntWidth → Int
  | i8 => -128
  | i16 => -32768
  | i32 => -2147483648
  | i64 => -9223372036854775808
  | i128 => -170141183460469231731687303715884105728
  | u8 | u16 | u32 | u64 | u128 => 0

def high : IntWidth → Int
  | i8 => 127
  | i16 => 32767
  | i32 => 2147483647
  | i64 => 9223372036854775807
  | i128 => 170141183460469231731687303715884105727
  | u8 => 255
  | u16 => 65535
  | u32 => 4294967295
  | u64 => 18446744073709551615
  | u128 => 340282366920938463463374607431768211455

/-- Whether `n` is an integer of the width. -/
def admits (w : IntWidth) (n : Int) : Prop :=
  w.low ≤ n ∧ n ≤ w.high

instance (w : IntWidth) (n : Int) : Decidable (w.admits n) :=
  inferInstanceAs (Decidable (_ ∧ _))

end IntWidth

/-- The integers of a width. -/
structure Ranged (w : IntWidth) where
  val : Int
  low_le : w.low ≤ val := by decide
  le_high : val ≤ w.high := by decide
deriving DecidableEq

namespace Ranged

@[ext] theorem ext {w : IntWidth} {a b : Ranged w} (h : a.val = b.val) : a = b := by
  cases a
  cases b
  simp_all

/-- The integer `n`, if it is of width `w`. -/
def ofInt? (w : IntWidth) (n : Int) : Option (Ranged w) :=
  if h : w.admits n then some ⟨n, h.1, h.2⟩ else none

theorem ofInt?_val {w : IntWidth} (a : Ranged w) : ofInt? w a.val = some a := by
  simp [ofInt?, IntWidth.admits, a.low_le, a.le_high]

end Ranged

end FilterGateway
