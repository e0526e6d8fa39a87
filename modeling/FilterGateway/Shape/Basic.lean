import FilterGateway.IntWidth
import FilterGateway.Json.Basic

/-!
# Shapes of configurations

A filter keeps its configuration as a value of some shape: records with fields, lists, maps,
choices between variants, and numbers of a fixed width. `Shape.Value` gives the values of a shape
as a type, so a value never has the wrong shape, and `Shape.datum` is such a value without its
shape. `Shape.bind`, in a later module, lays options over a value.
-/

namespace FilterGateway

/-- What the keys of a map are. Only texts and integers have a text to stand for them. -/
inductive KeyShape where
  | text
  | int (w : IntWidth)
  | pair
deriving DecidableEq, Repr

@[reducible] def KeyShape.Value : KeyShape → Type
  | .text => String
  | .int w => Ranged w
  | .pair => Int × Int

/-- A value without its shape. The test that decides whether a field is written is part of the shape
of its record, so this is how it sees the value of the field. -/
inductive Datum where
  | bool (b : Bool)
  | int (n : Int)
  | single (x : Float32)
  | double (x : Float)
  | char (c : Char)
  | text (s : String)
  | json (value : Json)
  | list (items : List Datum)

namespace Datum

/-- Whether an optional value is missing, or a list or a map has no entries. -/
def isNothing : Datum → Bool
  | .list [] => true
  | _ => false

def isEmptyText : Datum → Bool
  | .text "" => true
  | _ => false

end Datum

/-- How a field is read and written. `fallback` is the written form of the value it takes when it
is missing; without one it must be present. The field is left out of the written form of its record
when its value is one that it `omits`. -/
structure FieldRule where
  name : String
  aliases : List String := []
  fallback : Option Json := none
  omits : Datum → Bool := fun _ => false

/-- Whether `key` names the field. -/
def FieldRule.matches (rule : FieldRule) (key : String) : Bool :=
  rule.name == key || rule.aliases.contains key

/-- What a record does with keys that name none of its fields. -/
inductive Others where
  | ignored
  | refused
  | kept
deriving DecidableEq, Repr

@[reducible] def Others.Value : Others → Type
  | .kept => Fields
  | .ignored | .refused => Unit

/-- The shapes. A title is what messages call a shape. -/
inductive Shape where
  | unit
  | bool
  | int (w : IntWidth)
  | single
  | double
  | char
  | text
  | json
  | option (s : Shape)
  | list (s : Shape)
  | tuple (title : Option String) (items : List Shape)
  | map (key : KeyShape) (s : Shape)
  | record (title : String) (fields : List (FieldRule × Shape)) (others : Others)
  | external (variants : List (String × Shape))
  | tagged (title : String) (tag : String) (variants : List (String × Shape))
  | untagged (title : String) (alternatives : List Shape)

namespace Shape

mutual

/-- The values of a shape. -/
@[reducible] def Value : Shape → Type
  | .unit => Unit
  | .bool => Bool
  | .int w => Ranged w
  | .single => Float32
  | .double => Float
  | .char => Char
  | .text => String
  | .json => Json
  | .option s => Option s.Value
  | .list s => List s.Value
  | .tuple _ items => Row items
  | .map key s => List (key.Value × s.Value)
  | .record _ fields others => FieldRow fields × others.Value
  | .external variants => Variant variants
  | .tagged _ _ variants => Variant variants
  | .untagged _ alternatives => Alternative alternatives

/-- A value of each shape. -/
@[reducible] def Row : List Shape → Type
  | [] => Unit
  | s :: rest => s.Value × Row rest

/-- A value of each field. -/
@[reducible] def FieldRow : List (FieldRule × Shape) → Type
  | [] => Unit
  | (_, s) :: rest => s.Value × FieldRow rest

/-- A value of one of the variants. -/
@[reducible] def Variant : List (String × Shape) → Type
  | [] => Empty
  | (_, s) :: rest => s.Value ⊕ Variant rest

/-- A value of one of the shapes. -/
@[reducible] def Alternative : List Shape → Type
  | [] => Empty
  | s :: rest => s.Value ⊕ Alternative rest

end

def keyDatum : (k : KeyShape) → k.Value → Datum
  | .text, key => .text key
  | .int _, n => .int n.val
  | .pair, (a, b) => .list [.int a, .int b]

def othersDatum : (others : Others) → others.Value → Datum
  | .kept, fields => .json (.object fields)
  | .ignored, _ | .refused, _ => .list []

mutual

/-- The value without its shape. Nothing of it is lost. -/
def datum : (s : Shape) → s.Value → Datum
  | .unit, _ => .list []
  | .bool, b => .bool b
  | .int _, n => .int n.val
  | .single, x => .single x
  | .double, x => .double x
  | .char, c => .char c
  | .text, s => .text s
  | .json, value => .json value
  | .option _, none => .list []
  | .option s, some value => .list [datum s value]
  | .list s, values => .list (values.map (datum s))
  | .tuple _ items, values => .list (datumRow items values)
  | .map key s, entries =>
    .list (entries.map fun (k, value) => .list [keyDatum key k, datum s value])
  | .record _ fields others, (values, kept) =>
    .list [.list (datumFields fields values), othersDatum others kept]
  | .external variants, value => datumVariant variants value
  | .tagged _ _ variants, value => datumVariant variants value
  | .untagged _ alternatives, value => datumAlternative alternatives value

def datumRow : (items : List Shape) → Row items → List Datum
  | [], _ => []
  | s :: rest, (value, values) => datum s value :: datumRow rest values

def datumFields : (fields : List (FieldRule × Shape)) → FieldRow fields → List Datum
  | [], _ => []
  | (_, s) :: rest, (value, values) => datum s value :: datumFields rest values

/-- A variant is told apart by how many others come before it. -/
def datumVariant : (variants : List (String × Shape)) → Variant variants → Datum
  | (_, s) :: _, .inl value => .list [.bool true, datum s value]
  | _ :: rest, .inr value => .list [.bool false, datumVariant rest value]

def datumAlternative : (alternatives : List Shape) → Alternative alternatives → Datum
  | s :: _, .inl value => .list [.bool true, datum s value]
  | _ :: rest, .inr value => .list [.bool false, datumAlternative rest value]

end

/-- Fields read so far. -/
@[reducible] def Draft : List (FieldRule × Shape) → Type
  | [] => Unit
  | (_, s) :: rest => Option s.Value × Draft rest

/-- No field read so far. -/
def blank : (fields : List (FieldRule × Shape)) → Draft fields
  | [] => ()
  | (_, _) :: rest => (none, blank rest)

/-- Whether a variant of this shape holds nothing. -/
def isUnit : Shape → Bool
  | .unit => true
  | _ => false

/-- What a missing field without a fallback is, when it need not be present. -/
def whenMissing? : (s : Shape) → Option s.Value
  | .option _ => some none
  | _ => none

end Shape

end FilterGateway
