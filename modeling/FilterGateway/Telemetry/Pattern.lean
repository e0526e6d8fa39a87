import FilterGateway.Regex.Reader

/-!
# Patterns for values of fields

A value that a directive asks for is a truth value, a number, or a regular expression. Only whether
it is one of these matters here. Truth values, and numbers without a plus sign, are regular
expressions as well.
-/

namespace FilterGateway

namespace Pattern

/-- The words for numbers that are not finite, in any case. -/
def nonfiniteWords : List String :=
  ["inf", "infinity", "nan"]

/-- Whether a text is a power of ten after a number: nothing, or a letter and an integer. -/
def isExponent (cs : List Char) : Bool :=
  match cs with
  | [] => true
  | letter :: rest =>
    let digits := if rest.head? = some '+' ∨ rest.head? = some '-' then rest.drop 1 else rest
    (letter == 'e' || letter == 'E') && !digits.isEmpty && digits.all Char.isDigit

/-- Whether a text is a number without a sign. It has a digit before or after the point. -/
def isUnsignedNumber (cs : List Char) : Bool :=
  let whole := cs.takeWhile Char.isDigit
  let rest := cs.drop whole.length
  let (fraction, rest) :=
    match rest with
    | '.' :: after =>
      let fraction := after.takeWhile Char.isDigit
      (fraction, after.drop fraction.length)
    | _ => ([], rest)
  nonfiniteWords.contains (String.ofList cs).toLower ||
    (!(whole.isEmpty && fraction.isEmpty) && isExponent rest)

/-- Whether a text is a number with a plus sign, which has nothing to repeat before it. -/
def isPositiveNumber : List Char → Bool
  | '+' :: rest => isUnsignedNumber rest
  | _ => false

end Pattern

/-- Whether a text may be asked for as the value of a field. -/
def isFieldPattern (text : String) : Bool :=
  let cs := text.toList
  Pattern.isPositiveNumber cs || (Regex.read? cs).any Regex.isSupported

end FilterGateway
