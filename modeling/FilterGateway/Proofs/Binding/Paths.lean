import FilterGateway.Proofs.Binding.Merging

/-!
# Merged objects along a path

What a path of keys leads to in a merged object is decided by the upper object alone where it has
something that is no object on the way: that replaces all below it. Where the path ends at an object
of the upper one, an object stands there, with the keys of both. Everywhere else the upper object
has nothing to say and the lower one is as it was.
-/

namespace FilterGateway

namespace Json

def IsObject (value : Json) : Prop :=
  ∃ fields, value = .object fields

theorem at?_append (value : Json) (start rest : List String) :
    value.at? (start ++ rest) = (value.at? start).bind fun inner => inner.at? rest := by
  induction start generalizing value with
  | nil => rw [List.nil_append, at?, Option.bind_some]
  | cons key start ih =>
    cases value with
    | object fields =>
      rw [List.cons_append, at?, at?, Option.bind_assoc]
      exact Option.bind_congr fun inner _ => ih inner
    | _ => rfl

theorem at?_of_not_isObject {value : Json} (h : ¬value.IsObject) {path : List String}
    (hpath : path ≠ []) : value.at? path = none := by
  obtain ⟨key, rest, rfl⟩ := List.exists_cons_of_ne_nil hpath
  cases value with
  | object fields => exact absurd ⟨fields, rfl⟩ h
  | _ => rfl

theorem isObject_of_at? {value : Json} {path : List String} {fields : Fields}
    (h : value.at? path = some (.object fields)) : value.IsObject := by
  by_contra hvalue
  by_cases hpath : path = []
  · subst hpath
    rw [at?] at h
    exact hvalue ⟨fields, Option.some.inj h⟩
  · rw [at?_of_not_isObject hvalue hpath] at h
    cases h

/-- An object is merged into an object; in every other case the upper value takes the place. -/
theorem mergeOver_cases (base : Option Json) (value : Json) :
    (∃ below inner, base = some (.object below) ∧ value = .object inner ∧
      mergeOver base value = .object (Fields.merge below inner)) ∨
    (¬(value.IsObject ∧ ∃ below ∈ base, below.IsObject) ∧ mergeOver base value = value) := by
  by_cases hobjects : value.IsObject ∧ ∃ below ∈ base, below.IsObject
  · obtain ⟨⟨inner, rfl⟩, _, hmem, below, rfl⟩ := hobjects
    obtain rfl := Option.mem_def.mp hmem
    exact Or.inl ⟨below, inner, rfl, rfl, mergeOver_object_object below inner⟩
  · refine Or.inr ⟨hobjects, ?_⟩
    by_cases hvalue : value.IsObject
    · refine mergeOver_of_base_ne_object (fun below hbase => hobjects ⟨hvalue, ?_⟩) value
      exact ⟨.object below, hbase, below, rfl⟩
    · exact mergeOver_of_ne_object (fun upper heq => hvalue ⟨upper, heq⟩) base

end Json

namespace Fields

/-- Whether a table has a value that is no object on the way along a path or at its end. -/
def Replaces (fields : Fields) (path : List String) : Prop :=
  ∃ start value, start <+: path ∧ (Json.object fields).at? start = some value ∧ ¬value.IsObject

theorem Replaces.cons {fields inner : Fields} {key : String} {path : List String}
    (h : inner.Replaces path) (hget : Table.get? key fields = some (.object inner)) :
    fields.Replaces (key :: path) := by
  obtain ⟨start, value, hstart, hat, hvalue⟩ := h
  refine ⟨key :: start, value, List.cons_prefix_cons.mpr ⟨rfl, hstart⟩, ?_, hvalue⟩
  rw [Json.at?, hget, Option.bind_some, hat]

theorem spares_of_not_replaces {fields : Fields} {path : List String}
    (hfree : ¬fields.Replaces path) (hnone : (Json.object fields).at? path = none) :
    fields.Spares path := by
  induction path generalizing fields with
  | nil => cases hnone
  | cons key path ih =>
    rw [Spares]
    rw [Json.at?] at hnone
    rcases hget : Table.get? key fields with _ | value
    · trivial
    rw [hget, Option.bind_some] at hnone
    by_cases hvalue : value.IsObject
    · obtain ⟨inner, rfl⟩ := hvalue
      exact ih (fun h => hfree (h.cons hget)) hnone
    · refine absurd ⟨[key], value, by simp, ?_, hvalue⟩ hfree
      rw [Json.at?, hget, Option.bind_some, Json.at?]

theorem mem_keys_merge (base : Fields) {upper : Fields} (h : upper.Sorted) (key : String) :
    key ∈ Table.keys (base.merge upper) ↔ key ∈ Table.keys upper ∨ key ∈ Table.keys base := by
  rw [← Table.isSome_get?_iff, ← Table.isSome_get?_iff, ← Table.isSome_get?_iff,
    get?_merge base h]
  cases Table.get? key upper <;> simp

theorem at?_merge_cons (base : Fields) {upper : Fields} (h : upper.Sorted) {key : String}
    {value : Json} (hget : Table.get? key upper = some value) (path : List String) :
    (Json.object (base.merge upper)).at? (key :: path) =
      (Json.mergeOver (Table.get? key base) value).at? path := by
  rw [Json.at?, get?_merge_of_some base h hget, Option.bind_some]

theorem at?_merge_of_not_isObject (base : Fields) {upper : Fields}
    (h : (Json.object upper).Ordered) {path : List String} {value : Json}
    (hat : (Json.object upper).at? path = some value) (hvalue : ¬value.IsObject) :
    (Json.object (base.merge upper)).at? path = some value := by
  induction path generalizing base upper with
  | nil =>
    rw [Json.at?] at hat
    exact absurd ⟨upper, (Option.some.inj hat).symm⟩ hvalue
  | cons key path ih =>
    rw [Json.at?, Option.bind_eq_some_iff] at hat
    obtain ⟨first, hget, hrest⟩ := hat
    rw [at?_merge_cons base h.sorted hget]
    rcases Json.mergeOver_cases (Table.get? key base) first with
      ⟨below, inner, -, rfl, hmerged⟩ | ⟨-, hmerged⟩ <;>
      rw [hmerged]
    · exact ih below (h.of_get? hget) hrest
    · exact hrest

theorem exists_at?_merge_object (base : Fields) {upper : Fields}
    (h : (Json.object upper).Ordered) {path : List String} {fields : Fields}
    (hat : (Json.object upper).at? path = some (.object fields)) :
    ∃ merged : Fields, (Json.object (base.merge upper)).at? path = some (.object merged) ∧
      ∀ key, key ∈ Table.keys merged ↔ key ∈ Table.keys fields ∨
        ∃ others, (Json.object base).at? path = some (.object others) ∧
          key ∈ Table.keys others := by
  induction path generalizing base upper with
  | nil =>
    obtain rfl : upper = fields := by simpa [Json.at?] using hat
    exact ⟨base.merge upper, rfl, fun key => by simp [mem_keys_merge base h.sorted, Json.at?]⟩
  | cons key path ih =>
    rw [Json.at?, Option.bind_eq_some_iff] at hat
    obtain ⟨first, hget, hrest⟩ := hat
    rw [at?_merge_cons base h.sorted hget, Json.at?]
    rcases Json.mergeOver_cases (Table.get? key base) first with
      ⟨below, inner, hbase, rfl, hmerged⟩ | ⟨happart, hmerged⟩ <;>
      rw [hmerged]
    · rw [hbase]
      exact ih below (h.of_get? hget) hrest
    · -- The upper value takes the place, so the lower table must have no object at the end.
      refine ⟨fields, hrest, fun other => ⟨Or.inl, ?_⟩⟩
      rintro (hmem | ⟨others, hothers, -⟩)
      · exact hmem
      · obtain ⟨below, hbelow, hunder⟩ := Option.bind_eq_some_iff.mp hothers
        exact absurd ⟨Json.isObject_of_at? hrest, below, hbelow, Json.isObject_of_at? hunder⟩
          happart

/-- What a path leads to in a merged object. If the upper object has something that is no object on
the way or at the end, it leads to what it leads to there, which is nothing below such a value. If
it leads to an object there, it leads to an object with the keys of both. Else it leads to nothing
there, and to what it leads to in the lower object. -/
theorem at?_merge_cases (base : Fields) {upper : Fields} (h : (Json.object upper).Ordered)
    (path : List String) :
    (∀ start value, start <+: path → (Json.object upper).at? start = some value →
      ¬value.IsObject →
        (Json.object (base.merge upper)).at? path = (Json.object upper).at? path ∧
          (start ≠ path → (Json.object (base.merge upper)).at? path = none)) ∧
    (∀ fields, (Json.object upper).at? path = some (.object fields) →
      ∃ merged : Fields, (Json.object (base.merge upper)).at? path = some (.object merged) ∧
        ∀ key, key ∈ Table.keys merged ↔ key ∈ Table.keys fields ∨
          ∃ others, (Json.object base).at? path = some (.object others) ∧
            key ∈ Table.keys others) ∧
    (¬upper.Replaces path → (∀ fields, (Json.object upper).at? path ≠ some (.object fields)) →
      (Json.object upper).at? path = none ∧
        (Json.object (base.merge upper)).at? path = (Json.object base).at? path) := by
  refine ⟨?_, fun fields hat => exists_at?_merge_object base h hat, ?_⟩
  · -- Both paths come to the same value, and from there on they cannot part.
    rintro start value ⟨rest, rfl⟩ hat hvalue
    have hmerged := at?_merge_of_not_isObject base h hat hvalue
    rw [Json.at?_append, Json.at?_append, hmerged, hat]
    refine ⟨rfl, fun hne => ?_⟩
    rw [Option.bind_some]
    exact Json.at?_of_not_isObject hvalue (by simpa using hne)
  · intro hfree hobject
    have hnone : (Json.object upper).at? path = none := by
      refine Option.eq_none_iff_forall_ne_some.mpr fun value hat => ?_
      by_cases hvalue : value.IsObject
      · obtain ⟨fields, rfl⟩ := hvalue
        exact hobject fields hat
      · exact hfree ⟨path, value, List.prefix_refl path, hat, hvalue⟩
    exact ⟨hnone, at?_merge_of_spares base h (spares_of_not_replaces hfree hnone)⟩

/-- A limit with a rate that is an object. -/
def limitBase : Fields :=
  [("limit", .object [("burst", .int 5), ("rate", .object [("count", .int 1)])])]

/-- Options that give the limit another rate, which is a number, and a scope. -/
def limitOptions : Fields :=
  [("limit", .object [("rate", .int 10), ("scope", .object [])])]

/-- The number replaces the object with all that is below it; the limit stays an object with the
keys of both, and what the options do not name is kept. -/
theorem at?_merge_cases_of_limit :
    (Json.object limitOptions).Ordered ∧
      (Json.object (limitBase.merge limitOptions)).at? ["limit", "rate", "count"] = none ∧
      (∃ merged : Fields,
        (Json.object (limitBase.merge limitOptions)).at? ["limit"] = some (.object merged) ∧
          ∀ key, key ∈ Table.keys merged ↔ key ∈ ["rate", "scope"] ∨ key ∈ ["burst", "rate"]) ∧
      (Json.object (limitBase.merge limitOptions)).at? ["limit", "burst"] = some (.int 5) := by
  have hordered : (Json.object limitOptions).Ordered := by
    simp only [limitOptions, Json.Ordered, Json.OrderedFields, Table.Sorted]
    decide
  refine ⟨hordered, ?_, ?_, ?_⟩
  · have hreplaced := (at?_merge_cases limitBase hordered ["limit", "rate", "count"]).1
    exact (hreplaced ["limit", "rate"] (.int 10) ⟨["count"], rfl⟩ rfl (by simp [Json.IsObject])).2
      (by decide)
  · have hobject := (at?_merge_cases limitBase hordered ["limit"]).2.1
    obtain ⟨merged, hat, hkeys⟩ := hobject _ rfl
    refine ⟨merged, hat, fun key => (hkeys key).trans (or_congr_right ?_)⟩
    constructor
    · rintro ⟨others, hothers, hmem⟩
      obtain rfl := Json.object.inj (Option.some.inj hothers)
      exact hmem
    · exact fun hmem => ⟨_, rfl, hmem⟩
  · have hspared := (at?_merge_cases limitBase hordered ["limit", "burst"]).2.2
    refine (hspared ?_ (by simp [limitOptions, Json.at?, Table.get?])).2
    rintro ⟨start, value, hstart, hat, hvalue⟩
    simp only [List.prefix_cons_iff, List.prefix_nil] at hstart
    obtain rfl | ⟨_, rfl, rfl | ⟨_, rfl, rfl⟩⟩ := hstart
    · exact hvalue ⟨_, (Option.some.inj hat).symm⟩
    · exact hvalue ⟨_, (Option.some.inj hat).symm⟩
    · cases hat

end Fields

end FilterGateway
