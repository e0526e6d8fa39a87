import FilterGateway.Table

/-!
# JSON values

Integers and doubles are different numbers: `1` and `1.0` are not the same value. The fields of an
object are kept in increasing order of their keys, which is also the order in which they are read.
-/

namespace FilterGateway

inductive Json where
  | null
  | bool (b : Bool)
  | int (n : Int)
  | float (x : Float)
  | text (s : String)
  | list (items : List Json)
  | object (fields : List (String × Json))
deriving Inhabited

/-- The fields of an object. -/
abbrev Fields := Table Json

namespace Json

mutual

/-- Whether two values are equal. Doubles are compared as numbers, so both zeros are equal. -/
def same : Json → Json → Bool
  | .null, .null => true
  | .bool a, .bool b => a == b
  | .int m, .int n => m == n
  | .float x, .float y => x == y
  | .text s, .text t => s == t
  | .list xs, .list ys => sameItems xs ys
  | .object xs, .object ys => sameFields xs ys
  | _, _ => false

def sameItems : List Json → List Json → Bool
  | [], [] => true
  | x :: xs, y :: ys => same x y && sameItems xs ys
  | _, _ => false

def sameFields : Fields → Fields → Bool
  | [], [] => true
  | (j, x) :: xs, (k, y) :: ys => j == k && same x y && sameFields xs ys
  | _, _ => false

end

end Json

end FilterGateway
