import FilterGateway.Shape.Key

/-!
# Reading configurations

The fields of an object are read in the order of their keys, and the first one that does not fit
is reported. Fields that are missing are looked for only after that, in the order of the record.
A record may also be given as the list of its fields.
-/

namespace FilterGateway

namespace Shape

def decodeInt (w : IntWidth) : Json → Except DecodeError (Ranged w)
  | .int n =>
    match Ranged.ofInt? w n with
    | some n => .ok n
    | none => .error (.invalidValue (.int n) (.int w))
  | value => .error (.invalidType value.found (.int w))

/-- The double nearest to a number. -/
def decodeDouble : Json → Except DecodeError Float
  | .int n => .ok (Float.ofInt n)
  | .float x => .ok x
  | value => .error (.invalidType value.found .double)

/-- The single-precision number nearest to a number. An integer is rounded once. -/
def decodeSingle : Json → Except DecodeError Float32
  | .int n =>
    .ok (if n < 0 then (Int64.ofInt n).toFloat32 else (UInt64.ofNat n.toNat).toFloat32)
  | .float x => .ok x.toFloat32
  | value => .error (.invalidType value.found .single)

def decodeChar : Json → Except DecodeError Char
  | .text s =>
    match s.toList with
    | [c] => .ok c
    | _ => .error (.invalidValue (.text s) .char)
  | value => .error (.invalidType value.found .char)

def decodeText : Json → Except DecodeError String
  | .text s => .ok s
  | value => .error (.invalidType value.found .text)

/-- What a list shorter than a row of shapes was wanted to be. -/
def rowLength (title : Option String) (size : Nat) : WantedLength :=
  match title with
  | some title => .titled title size
  | none => .tuple size

/-- What a value that is no list was wanted to be. -/
def rowWanted (title : Option String) (size : Nat) : Wanted :=
  match title with
  | some title => .titled title
  | none => .tuple size

/-- A row read from a list, when it has used up all items. -/
def allUsed {α : Type} (items : List Json) (result : α × List Json) : Except DecodeError α :=
  if result.2.isEmpty then .ok result.1 else .error (.invalidLength items.length .fewer)

/-- What is handed to the shape of a variant. A variant that holds nothing may be given by its name
alone, and a record only by an object. -/
def variantPayload (s : Shape) (payload? : Option Json) : Except DecodeError Json :=
  match s, payload? with
  | .unit, none => .ok .null
  | .record .., none => .error (.invalidType .bareVariant .recordVariant)
  | .record .., some (.object fields) => .ok (.object fields)
  | .record .., some value => .error (.invalidType value.found .recordVariant)
  | _, none => .error (.invalidType .bareVariant .valueVariant)
  | _, some value => .ok value

/-- The name of a variant in the tag of an object. -/
def tagName : Json → Except DecodeError String
  | .text name => .ok name
  | value => .error (.invalidType value.found .variantName)

/-- The name of a variant and the fields beside it. The tag is looked at in its place among the
keys, before anything else of the object. -/
def splitTag (tag : String) (fields : Fields) : Except DecodeError (String × Json) :=
  match fields.get? tag with
  | none => .error (.missingField tag)
  | some value => (tagName value).map fun name =>
      (name, .object (fields.erase tag))

/-- What is handed to the shape of a variant that was called by a tag. A variant that holds nothing
is not handed what stands beside the tag, nor a record the items of a list beyond its fields. -/
def tagPayload : Shape → Json → Json
  | .unit, _ => .null
  | .record _ fields _, .list items => .list (items.take fields.length)
  | _, payload => payload

/-- Refuses a list with more items than the record has fields. -/
def noTagSurplus : Shape → Json → Except DecodeError Unit
  | .record _ fields _, .list items =>
    if fields.length < items.length then
      .error (.invalidLength items.length (.exactly fields.length))
    else .ok ()
  | _, _ => .ok ()

/-- What a record does with a key that names none of its fields. -/
def takeOther (others : Others) (known : List String) (kept : Fields) (key : String)
    (value : Json) : Except DecodeError Fields :=
  match others with
  | .ignored => .ok kept
  | .refused => .error (.unknownField key known)
  | .kept => .ok (kept.insert key value)

/-- The keys that a record keeps, out of those that were collected. -/
def keepOthers : (others : Others) → Fields → others.Value
  | .kept, fields => fields
  | .ignored, _ | .refused, _ => ()

mutual

/-- The value of a shape that a JSON value stands for. -/
def decode : (s : Shape) → Json → Except DecodeError s.Value
  | .unit, .null => .ok ()
  | .unit, value => .error (.invalidType value.found .unit)
  | .bool, .bool b => .ok b
  | .bool, value => .error (.invalidType value.found .bool)
  | .int w, value => decodeInt w value
  | .single, value => decodeSingle value
  | .double, value => decodeDouble value
  | .char, value => decodeChar value
  | .text, value => decodeText value
  | .json, value => .ok value
  | .option _, .null => .ok none
  | .option s, value => (decode s value).map some
  | .list s, .list items => items.mapM (decode s)
  | .list _, value => .error (.invalidType value.found .sequence)
  | .tuple title row, .list items => do
    allUsed items (← decodeRow (rowLength title row.length) 0 row items)
  | .tuple title row, value =>
    .error (.invalidType value.found (rowWanted title row.length))
  | .map key s, .object fields =>
    fields.mapM fun (k, value) => do
      let k ← key.decode k
      let value ← decode s value
      pure (k, value)
  | .map _ _, value => .error (.invalidType value.found .map)
  | .record _ fields others, .object entries => do
    let known := fields.map (·.1.name)
    let (draft, kept) ← entries.foldlM (fun (draft, kept) (key, value) => do
      match ← offer fields draft key value with
      | some draft => pure (draft, kept)
      | none => pure (draft, ← takeOther others known kept key value)) (blank fields, [])
    let values ← complete fields draft
    pure (values, keepOthers others kept)
  | .record title fields .ignored, .list items => do
    let values ← allUsed items (← decodeFieldRow (.titled title fields.length) 0 fields items)
    pure (values, ())
  | .record title fields .refused, .list items => do
    let values ← allUsed items (← decodeFieldRow (.titled title fields.length) 0 fields items)
    pure (values, ())
  | .record title _ _, value => .error (.invalidType value.found (.titled title))
  | .external variants, .text name => decodeVariant (variants.map (·.1)) variants name none
  | .external variants, .object [(name, payload)] =>
    decodeVariant (variants.map (·.1)) variants name (some payload)
  | .external _, .object _ => .error (.invalidValue .map .singleKey)
  | .external _, value => .error (.invalidType value.found .textOrMap)
  | .tagged _ tag variants, .object fields => do
    let (name, payload) ← splitTag tag fields
    decodeTagged (variants.map (·.1)) variants name payload
  | .tagged _ tag variants, .list items =>
    match items with
    | [] => .error (.missingField tag)
    | head :: rest => do decodeTagged (variants.map (·.1)) variants (← tagName head) (.list rest)
  | .tagged title _ _, value => .error (.invalidType value.found (.titled title))
  | .untagged title alternatives, value => decodeAlternative title alternatives value

/-- A row read from the front of a list, and the items after it; `read` items came before. -/
def decodeRow (wanted : WantedLength) (read : Nat) :
    (row : List Shape) → List Json → Except DecodeError (Row row × List Json)
  | [], items => .ok ((), items)
  | _ :: _, [] => .error (.invalidLength read wanted)
  | s :: rest, item :: items => do
    let value ← decode s item
    let (values, items) ← decodeRow wanted (read + 1) rest items
    pure ((value, values), items)

/-- The fields of a record read from the front of a list, and the items after them. -/
def decodeFieldRow (wanted : WantedLength) (read : Nat) :
    (fields : List (FieldRule × Shape)) → List Json →
      Except DecodeError (FieldRow fields × List Json)
  | [], items => .ok ((), items)
  | (_, s) :: rest, item :: items => do
    let value ← decode s item
    let (values, items) ← decodeFieldRow wanted (read + 1) rest items
    pure ((value, values), items)
  | (rule, s) :: rest, [] =>
    match rule.fallback with
    | none => .error (.invalidLength read wanted)
    | some written => do
      let value ← decode s written
      let (values, items) ← decodeFieldRow wanted (read + 1) rest []
      pure ((value, values), items)

/-- The draft with the field that `key` names, or nothing if it names none. -/
def offer : (fields : List (FieldRule × Shape)) → Draft fields → String → Json →
    Except DecodeError (Option (Draft fields))
  | [], _, _, _ => .ok none
  | (rule, s) :: rest, (slot, draft), key, value =>
    if rule.matches key then
      match slot with
      | some _ => .error (.duplicateField rule.name)
      | none => (decode s value).map fun value => some (some value, draft)
    else
      (offer rest draft key value).map fun draft? => draft?.map fun draft => (slot, draft)

/-- The fields of a record from those that were present. -/
def complete : (fields : List (FieldRule × Shape)) → Draft fields →
    Except DecodeError (FieldRow fields)
  | [], _ => .ok ()
  | (rule, s) :: rest, (slot, draft) => do
    let value ←
      match slot, rule.fallback, s.whenMissing? with
      | some value, _, _ => pure value
      | none, some written, _ => decode s written
      | none, none, some value => pure value
      | none, none, none => throw (.missingField rule.name)
    let values ← complete rest draft
    pure (value, values)

/-- The variant called `name`. -/
def decodeVariant (known : List String) :
    (variants : List (String × Shape)) → String → Option Json →
      Except DecodeError (Variant variants)
  | [], name, _ => .error (.unknownVariant name known)
  | (label, s) :: rest, name, payload? =>
    if label = name then do
      let payload ← variantPayload s payload?
      let value ← decode s payload
      pure (.inl value)
    else
      (decodeVariant known rest name payload?).map .inr

/-- The variant called `name` by a tag, whose own fields stand beside the tag. -/
def decodeTagged (known : List String) :
    (variants : List (String × Shape)) → String → Json → Except DecodeError (Variant variants)
  | [], name, _ => .error (.unknownVariant name known)
  | (label, s) :: rest, name, payload =>
    if label = name then do
      let value ← decode s (tagPayload s payload)
      noTagSurplus s payload
      pure (.inl value)
    else
      (decodeTagged known rest name payload).map .inr

/-- The first of the shapes that a value fits. -/
def decodeAlternative (title : String) :
    (alternatives : List Shape) → Json → Except DecodeError (Alternative alternatives)
  | [], _ => .error (.noAlternative title)
  | s :: rest, value =>
    match decode s value with
    | .ok value => .ok (.inl value)
    | .error _ => (decodeAlternative title rest value).map .inr

end

end Shape

end FilterGateway
