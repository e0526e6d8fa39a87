import FilterGateway.Shape.Key

/-!
# Writing configurations

The written form of a value is a JSON value: a record becomes an object, and a double that is not
finite becomes `null`.
-/

namespace FilterGateway

namespace Shape

/-- An integer has a written form when some JSON reader of 64-bit numbers reads it. -/
def encodeInt {w : IntWidth} (n : Ranged w) : Except EncodeError Json :=
  if IntWidth.i64.low ≤ n.val ∧ n.val ≤ IntWidth.u64.high then .ok (.int n.val)
  else .error .numberTooLarge

def encodeFloat (x : Float) : Json :=
  if x.isFinite then .float x else .null

/-- A record with a tag among its fields. -/
def putTag (tag name : String) : Json → Except EncodeError Json
  | .object fields => .ok (.object (Table.insert tag (.text name) fields))
  | _ => .error .notTaggable

/-- The keys that a record keeps beside its fields. -/
def keptFields : (others : Others) → others.Value → Fields
  | .kept, fields => fields
  | .ignored, _ | .refused, _ => []

mutual

/-- The written form of a value. -/
def encode : (s : Shape) → s.Value → Except EncodeError Json
  | .unit, _ => .ok .null
  | .bool, b => .ok (.bool b)
  | .int _, n => encodeInt n
  | .single, x => .ok (encodeFloat x.toFloat)
  | .double, x => .ok (encodeFloat x)
  | .char, c => .ok (.text c.toString)
  | .text, s => .ok (.text s)
  | .json, value => .ok value
  | .option _, none => .ok .null
  | .option s, some value => encode s value
  | .list s, values => (values.mapM (encode s)).map .list
  | .tuple _ items, values => (encodeRow items values).map .list
  | .map key s, entries => do
    let fields ← entries.foldlM (fun fields (k, value) => do
      let k ← key.encode k
      let value ← encode s value
      pure (Table.insert k value fields)) []
    pure (.object fields)
  | .record _ fields others, (values, kept) => do
    let written ← encodeFields fields values
    pure (.object ((keptFields others kept).foldl (fun fs (k, v) => Table.insert k v fs) written))
  | .external variants, value => do
    let (name, payload?) ← encodeVariant variants value
    match payload? with
    | none => pure (.text name)
    | some payload => pure (.object [(name, payload)])
  | .tagged _ tag variants, value => do
    let (name, payload?) ← encodeVariant variants value
    putTag tag name (payload?.getD (.object []))
  | .untagged _ alternatives, value => encodeAlternative alternatives value

def encodeRow : (items : List Shape) → Row items → Except EncodeError (List Json)
  | [], _ => .ok []
  | s :: rest, (value, values) => do
    let value ← encode s value
    let values ← encodeRow rest values
    pure (value :: values)

/-- The fields of a record that are not left out. A field that is left out need not have a written
form. -/
def encodeFields : (fields : List (FieldRule × Shape)) → FieldRow fields → Except EncodeError Fields
  | [], _ => .ok []
  | (rule, s) :: rest, (value, values) =>
    if rule.omits (datum s value) then encodeFields rest values
    else do
      let value ← encode s value
      let written ← encodeFields rest values
      pure (Table.insert rule.name value written)

/-- The name of a variant and the written form of what it holds, if it holds anything. -/
def encodeVariant : (variants : List (String × Shape)) → Variant variants →
    Except EncodeError (String × Option Json)
  | (name, s) :: _, .inl value => do
    let payload ← encode s value
    pure (name, if s.isUnit then none else some payload)
  | _ :: rest, .inr value => encodeVariant rest value

def encodeAlternative : (alternatives : List Shape) → Alternative alternatives →
    Except EncodeError Json
  | s :: _, .inl value => encode s value
  | _ :: rest, .inr value => encodeAlternative rest value

end

end Shape

end FilterGateway
