import FilterGateway.Proofs.Binding.Update

/-!
# Records by the names of their fields

When each field of a record goes by one name of its own, the record is read and written name by
name: what stands under the name of a field is what the field is read from and what it was written
as, and nothing stands there only if the field was left out. No other name is written.
-/

namespace FilterGateway.Shape

/-- Whether each field goes by one name, and no two by the same. -/
def Named : List (FieldRule × Shape) → Prop
  | [] => True
  | (rule, _) :: rest => rule.aliases = [] ∧ rule.name ∉ rest.map (·.1.name) ∧ Named rest

/-- Whether something holds of each field, with what stands under its name and with its value. -/
def EachField (holds : (rule : FieldRule) → (s : Shape) → Option Json → s.Value → Prop) :
    (fields : List (FieldRule × Shape)) → (String → Option Json) → FieldRow fields → Prop
  | [], _, _ => True
  | (rule, s) :: rest, look, (value, values) =>
    holds rule s (look rule.name) value ∧ EachField holds rest look values

/-- How a field is read from what stands under its name. -/
def ReadAt (rule : FieldRule) (s : Shape) : Option Json → s.Value → Prop
  | none, value => standIn rule s = .ok value
  | some written, value => decode s written = .ok value

/-- How the fields of a record are read from what stands under their names. -/
abbrev ReadRow := EachField ReadAt

/-- What stands under the name of a field once it is written. -/
def WrittenAt (rule : FieldRule) (s : Shape) : Option Json → s.Value → Prop
  | none, value => rule.omits (datum s value) = true
  | some written, value => rule.omits (datum s value) = false ∧ encode s value = .ok written

abbrev WrittenRow := EachField WrittenAt

/-- Whether a field has a written form or needs none. -/
def WritableAt (rule : FieldRule) (s : Shape) (value : s.Value) : Prop :=
  rule.omits (datum s value) = true ∨ ∃ written, encode s value = .ok written

def WritableRow : (fields : List (FieldRule × Shape)) → FieldRow fields → Prop
  | [], _ => True
  | (rule, s) :: rest, (value, values) => WritableAt rule s value ∧ WritableRow rest values

section Rows

variable {fields : List (FieldRule × Shape)} {values : FieldRow fields} {entries : Fields}

theorem EachField.congr
    {holds : (rule : FieldRule) → (s : Shape) → Option Json → s.Value → Prop}
    {look look' : String → Option Json} (h : EachField holds fields look values)
    (hsame : ∀ name ∈ fields.map (·.1.name), look name = look' name) :
    EachField holds fields look' values := by
  induction fields with
  | nil => trivial
  | cons field rest ih =>
    obtain ⟨rule, s⟩ := field
    obtain ⟨value, values⟩ := values
    rw [List.map_cons, List.forall_mem_cons] at hsame
    exact ⟨hsame.1 ▸ h.1, ih h.2 hsame.2⟩

theorem given_iff_readAt {rule : FieldRule} (h : rule.aliases = []) {s : Shape} {value : s.Value}
    (hsorted : Table.Sorted entries) :
    Given rule s (Table.restrict rule.matches entries) value ↔
      ReadAt rule s (Table.get? rule.name entries) value := by
  rw [restrict_matches h hsorted]
  cases Table.get? rule.name entries <;> rfl

theorem givenRow_iff_readRow (h : Named fields) (hsorted : Table.Sorted entries) :
    GivenRow fields entries values ↔ ReadRow fields (fun name => entries.get? name) values := by
  induction fields generalizing entries with
  | nil => rfl
  | cons field rest ih =>
    obtain ⟨rule, s⟩ := field
    obtain ⟨value, values⟩ := values
    obtain ⟨haliases, hname, hrest⟩ := h
    -- The entries of the first field are no entries of the others.
    have hothers : ∀ name ∈ rest.map (·.1.name),
        Table.get? name (Table.restrict (fun key => !rule.matches key) entries) =
          Table.get? name entries := by
      intro name hmem
      exact get?_restrict_not_matches haliases (fun heq => hname (heq ▸ hmem)) entries
    rw [GivenRow, given_iff_readAt haliases hsorted, ih hrest (Table.sorted_restrict _ hsorted)]
    refine and_congr_right fun _ => ⟨fun hrow => hrow.congr hothers, fun hrow => ?_⟩
    exact hrow.congr fun name hmem => (hothers name hmem).symm

theorem get?_strangers (h : Named fields) (key : String) :
    Table.get? key (strangers fields entries) =
      if key ∈ fields.map (·.1.name) then none else Table.get? key entries := by
  induction fields generalizing entries with
  | nil => rfl
  | cons field rest ih =>
    obtain ⟨rule, s⟩ := field
    obtain ⟨haliases, -, hrest⟩ := h
    have hcons : key ∈ ((rule, s) :: rest).map (·.1.name) ↔
        rule.name = key ∨ key ∈ rest.map (·.1.name) := by
      rw [List.map_cons, List.mem_cons, eq_comm]
    rw [strangers, ih hrest, Table.get?_restrict, matches_eq_decide haliases]
    by_cases hmem : key ∈ rest.map (·.1.name)
    · rw [if_pos hmem, if_pos (hcons.mpr (.inr hmem))]
    rw [if_neg hmem]
    by_cases hkey : rule.name = key
    · rw [if_pos (hcons.mpr (.inl hkey))]
      simp [hkey]
    · rw [if_neg (fun h => (hcons.mp h).elim hkey hmem)]
      simp [hkey]

theorem strangers_eq_nil_iff (h : Named fields) :
    strangers fields entries = [] ↔
      ∀ key, key ∉ fields.map (·.1.name) → Table.get? key entries = none := by
  rw [Table.eq_nil_iff_get?]
  refine forall_congr' fun key => ?_
  rw [get?_strangers h]
  by_cases hkey : key ∈ fields.map (·.1.name) <;> simp [hkey]

/-- What is written of a record, name by name. -/
theorem writtenRow_of_encodeFields (h : Named fields)
    (hencode : encodeFields fields values = .ok entries) :
    WrittenRow fields (fun name => entries.get? name) values ∧
      ∀ key, key ∉ fields.map (·.1.name) → Table.get? key entries = none := by
  induction fields generalizing entries with
  | nil =>
    obtain rfl := Except.ok.inj hencode
    exact ⟨trivial, fun _ _ => rfl⟩
  | cons field rest ih =>
    obtain ⟨rule, s⟩ := field
    obtain ⟨value, values⟩ := values
    obtain ⟨haliases, hname, hrest⟩ := h
    cases homits : rule.omits (datum s value) with
    | true =>
      rw [encodeFields_cons_of_omits homits] at hencode
      obtain ⟨hrow, hothers⟩ := ih hrest hencode
      refine ⟨⟨?_, hrow⟩, fun key hkey => ?_⟩
      · dsimp only
        rw [hothers rule.name hname]
        exact homits
      · exact hothers key fun hmem => hkey (List.mem_cons_of_mem _ hmem)
    | false =>
      obtain ⟨one, others, hone, hwritten, rfl⟩ := encodeFields_cons_eq_ok homits hencode
      obtain ⟨hrow, hothers⟩ := ih hrest hwritten
      refine ⟨⟨?_, hrow.congr fun name hmem => ?_⟩, fun key hkey => ?_⟩
      · dsimp only
        rw [Table.get?_insert_self]
        exact ⟨homits, hone⟩
      · have hne : name ≠ rule.name := fun heq => hname (heq ▸ hmem)
        exact (Table.get?_insert_of_ne hne _ _).symm
      · obtain ⟨hne, hlater⟩ := not_or.mp (fun hor => hkey (List.mem_cons.mpr hor))
        rw [Table.get?_insert_of_ne hne]
        exact hothers key hlater

theorem WritableRow.exists_encodeFields (h : WritableRow fields values) :
    ∃ entries, encodeFields fields values = .ok entries := by
  induction fields with
  | nil => exact ⟨[], rfl⟩
  | cons field rest ih =>
    obtain ⟨rule, s⟩ := field
    obtain ⟨value, values⟩ := values
    obtain ⟨hvalue, hvalues⟩ := h
    obtain ⟨others, hothers⟩ := ih hvalues
    cases homits : rule.omits (datum s value) with
    | true => exact ⟨others, (encodeFields_cons_of_omits homits values).trans hothers⟩
    | false =>
      obtain ⟨one, hone⟩ := hvalue.resolve_left (by simp [homits])
      refine ⟨Table.insert rule.name one others, ?_⟩
      rw [encodeFields, if_neg (by simp [homits])]
      exact bind_eq_ok_iff.mpr ⟨one, hone, bind_eq_ok_iff.mpr ⟨others, hothers, rfl⟩⟩

end Rows

end FilterGateway.Shape
