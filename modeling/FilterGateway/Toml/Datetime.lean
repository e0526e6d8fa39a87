import FilterGateway.Decimal.Scientific

/-!
# Dates and times

A moment is a date, a time of day, or both; only both together may have an offset from universal
time. Its written form is normalized: a `T` between date and time, at most nine digits of a second
without trailing zeros, and `Z` or the hours and minutes of the offset.
-/

namespace FilterGateway.Toml

open FilterGateway.Decimal

structure Date where
  year : Nat
  month : Nat
  day : Nat
deriving DecidableEq, Repr

structure Time where
  hour : Nat
  minute : Nat
  second : Nat
  nanosecond : Nat
deriving DecidableEq, Repr

inductive Offset where
  | zulu
  | minutes (m : Int)
deriving DecidableEq, Repr

inductive Datetime where
  | date (d : Date)
  | time (t : Time)
  | moment (d : Date) (t : Time) (offset? : Option Offset)
deriving DecidableEq, Repr

namespace Date

def isLeapYear (year : Nat) : Bool :=
  year % 4 == 0 && (year % 100 != 0 || year % 400 == 0)

def daysIn (year month : Nat) : Nat :=
  if month = 2 then if isLeapYear year then 29 else 28
  else if month = 4 ∨ month = 6 ∨ month = 9 ∨ month = 11 then 30
  else 31

/-- Whether the calendar has such a day. -/
def isValid (d : Date) : Bool :=
  1 ≤ d.month && d.month ≤ 12 && 1 ≤ d.day && d.day ≤ daysIn d.year d.month

end Date

/-- Whether a clock can show the time; a minute may have a leap second. -/
def Time.isValid (t : Time) : Bool :=
  t.hour ≤ 23 && t.minute ≤ 59 && t.second ≤ 60

/-- The digits of `n` with zeros before them up to a width. -/
def padded (width n : Nat) : String :=
  let digits := digitsOfNat n
  String.ofList (List.replicate (width - digits.length) '0' ++ digits)

def Date.write (d : Date) : String :=
  padded 4 d.year ++ "-" ++ padded 2 d.month ++ "-" ++ padded 2 d.day

/-- The fraction of a second, without trailing zeros. -/
def fractionText (nanosecond : Nat) : String :=
  if nanosecond = 0 then ""
  else
    let digits := (padded 9 nanosecond).toList
    "." ++ String.ofList (digits.reverse.dropWhile (· == '0')).reverse

def Time.write (t : Time) : String :=
  padded 2 t.hour ++ ":" ++ padded 2 t.minute ++ ":" ++ padded 2 t.second ++
    fractionText t.nanosecond

def Offset.write : Offset → String
  | .zulu => "Z"
  | .minutes m =>
    (if m < 0 then "-" else "+") ++ padded 2 (m.natAbs / 60) ++ ":" ++ padded 2 (m.natAbs % 60)

/-- The normalized text of a moment. -/
def Datetime.write : Datetime → String
  | .date d => d.write
  | .time t => t.write
  | .moment d t offset? => d.write ++ "T" ++ t.write ++ (offset?.map Offset.write).getD ""

/-! ### Reading -/

/-- The number written by the first `width` characters, all of them digits. -/
def fixedNumber? (width : Nat) (cs : List Char) : Option (Nat × List Char) :=
  let digits := cs.take width
  if digits.length = width ∧ digits.all Char.isDigit then some (natOfDigits digits, cs.drop width)
  else none

/-- What follows the character `c`. -/
def after? (c : Char) : List Char → Option (List Char)
  | d :: rest => if d = c then some rest else none
  | [] => none

def Date.read? (cs : List Char) : Option (Date × List Char) := do
  let (year, cs) ← fixedNumber? 4 cs
  let (month, cs) ← fixedNumber? 2 (← after? '-' cs)
  let (day, cs) ← fixedNumber? 2 (← after? '-' cs)
  let d : Date := ⟨year, month, day⟩
  guard d.isValid
  some (d, cs)

/-- The nanoseconds of a fraction of a second, of which nine digits count. -/
def nanosecond? (cs : List Char) : Option (Nat × List Char) :=
  match cs with
  | '.' :: rest =>
    let digits := rest.takeWhile Char.isDigit
    if digits.isEmpty then none
    else
      let counted := digits.take 9
      some (natOfDigits counted * Nat.pow 10 (9 - counted.length), rest.dropWhile Char.isDigit)
  | _ => some (0, cs)

def Time.read? (cs : List Char) : Option (Time × List Char) := do
  let (hour, cs) ← fixedNumber? 2 cs
  let (minute, cs) ← fixedNumber? 2 (← after? ':' cs)
  let (second, cs) ← fixedNumber? 2 (← after? ':' cs)
  let (nanosecond, cs) ← nanosecond? cs
  let t : Time := ⟨hour, minute, second, nanosecond⟩
  guard t.isValid
  some (t, cs)

/-- The hours and minutes of an offset, in minutes. -/
def offsetMinutes? (cs : List Char) : Option (Int × List Char) := do
  let (hours, cs) ← fixedNumber? 2 cs
  let (minutes, cs) ← fixedNumber? 2 (← after? ':' cs)
  guard (hours ≤ 23 ∧ minutes ≤ 59)
  some (hours * 60 + minutes, cs)

/-- The offset after a time, if there is one. -/
def Offset.read? (cs : List Char) : Option (Option Offset × List Char) :=
  match cs with
  | 'Z' :: rest | 'z' :: rest => some (some .zulu, rest)
  | '+' :: rest => (offsetMinutes? rest).map fun (m, rest) => (some (.minutes m), rest)
  | '-' :: rest => (offsetMinutes? rest).map fun (m, rest) => (some (.minutes (-m)), rest)
  | _ => some (none, cs)

/-- The time of day after a date; a blank may stand for the `T` before it. -/
def timeAfterDate? (d : Date) (cs : List Char) : Option (Datetime × List Char) :=
  match cs with
  | c :: rest =>
    if c = 'T' ∨ c = 't' ∨ c = ' ' then do
      let (t, rest) ← Time.read? rest
      let (offset?, rest) ← Offset.read? rest
      some (.moment d t offset?, rest)
    else none
  | [] => none

def Datetime.read? (cs : List Char) : Option (Datetime × List Char) :=
  match Date.read? cs with
  | some (d, rest) => some ((timeAfterDate? d rest).getD (.date d, rest))
  | none => (Time.read? cs).map fun (t, rest) => (.time t, rest)

end FilterGateway.Toml
