import FilterGateway.Shape.Basic
import Mathlib.Logic.Function.Basic
import Mathlib.Data.List.Basic

/-!
# Values and their data

Taking the shape off a value loses nothing, so a rule may leave a field out for any values of its
shape: each test on the values is a test on their data.
-/

namespace FilterGateway.Shape

open Function

theorem keyDatum_injective (key : KeyShape) : Injective (keyDatum key) := by
  cases key with
  | text => exact fun _ _ h => Datum.text.inj h
  | int w => exact fun _ _ h => Ranged.ext (Datum.int.inj h)
  | pair =>
    rintro ⟨a, b⟩ ⟨a', b'⟩ h
    simpa [keyDatum] using h

theorem othersDatum_injective (others : Others) : Injective (othersDatum others) := by
  cases others with
  | kept => exact fun _ _ h => Json.object.inj (Datum.json.inj h)
  | ignored | refused => exact fun _ _ _ => rfl

mutual

theorem datum_injective : (s : Shape) → Injective (datum s)
  | .unit => fun _ _ _ => rfl
  | .bool => fun _ _ h => Datum.bool.inj h
  | .int _ => fun _ _ h => Ranged.ext (Datum.int.inj h)
  | .single => fun _ _ h => Datum.single.inj h
  | .double => fun _ _ h => Datum.double.inj h
  | .char => fun _ _ h => Datum.char.inj h
  | .text => fun _ _ h => Datum.text.inj h
  | .json => fun _ _ h => Datum.json.inj h
  | .option s => by
    rintro (_ | value) (_ | value') h
    · rfl
    · cases h
    · cases h
    · rw [datum_injective s (List.cons.inj (Datum.list.inj h)).1]
  | .list s => fun _ _ h => (datum_injective s).list_map (Datum.list.inj h)
  | .tuple _ items => fun _ _ h => datumRow_injective items (Datum.list.inj h)
  | .map key s => fun _ _ h => by
    have hentry : Injective fun entry : key.Value × s.Value =>
        Datum.list [keyDatum key entry.1, datum s entry.2] := by
      intro entry entry' heq
      obtain ⟨hk, hrest⟩ := List.cons.inj (Datum.list.inj heq)
      exact Prod.ext (keyDatum_injective key hk) (datum_injective s (List.cons.inj hrest).1)
    exact hentry.list_map (Datum.list.inj h)
  | .record _ fields others => by
    rintro ⟨values, kept⟩ ⟨values', kept'⟩ h
    obtain ⟨hvalues, hrest⟩ := List.cons.inj (Datum.list.inj h)
    rw [datumFields_injective fields (Datum.list.inj hvalues),
      othersDatum_injective others (List.cons.inj hrest).1]
  | .external variants => datumVariant_injective variants
  | .tagged _ _ variants => datumVariant_injective variants
  | .untagged _ alternatives => datumAlternative_injective alternatives

theorem datumRow_injective : (items : List Shape) → Injective (datumRow items)
  | [] => fun _ _ _ => rfl
  | s :: rest => by
    rintro ⟨value, values⟩ ⟨value', values'⟩ h
    obtain ⟨hvalue, hvalues⟩ := List.cons.inj h
    rw [datum_injective s hvalue, datumRow_injective rest hvalues]

theorem datumFields_injective : (fields : List (FieldRule × Shape)) →
    Injective (datumFields fields)
  | [] => fun _ _ _ => rfl
  | (_, s) :: rest => by
    rintro ⟨value, values⟩ ⟨value', values'⟩ h
    obtain ⟨hvalue, hvalues⟩ := List.cons.inj h
    rw [datum_injective s hvalue, datumFields_injective rest hvalues]

theorem datumVariant_injective : (variants : List (String × Shape)) →
    Injective (datumVariant variants)
  | [] => fun value => value.elim
  | (_, s) :: rest => by
    rintro (value | value) (value' | value') h
    · rw [datum_injective s (List.cons.inj (List.cons.inj (Datum.list.inj h)).2).1]
    · cases (List.cons.inj (Datum.list.inj h)).1
    · cases (List.cons.inj (Datum.list.inj h)).1
    · rw [datumVariant_injective rest (List.cons.inj (List.cons.inj (Datum.list.inj h)).2).1]

theorem datumAlternative_injective : (alternatives : List Shape) →
    Injective (datumAlternative alternatives)
  | [] => fun value => value.elim
  | s :: rest => by
    rintro (value | value) (value' | value') h
    · rw [datum_injective s (List.cons.inj (List.cons.inj (Datum.list.inj h)).2).1]
    · cases (List.cons.inj (Datum.list.inj h)).1
    · cases (List.cons.inj (Datum.list.inj h)).1
    · rw [datumAlternative_injective rest (List.cons.inj (List.cons.inj (Datum.list.inj h)).2).1]

end

/-- Any test on the values of a shape can decide which of them are left out. -/
theorem exists_omits (s : Shape) (test : s.Value → Bool) :
    ∃ omits : Datum → Bool, ∀ value, omits (datum s value) = test value :=
  ⟨extend (datum s) test fun _ => false, fun _ => (datum_injective s).extend_apply ..⟩

end FilterGateway.Shape
