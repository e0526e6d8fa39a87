import FilterGateway.Proofs.Binding.Overlay
import FilterGateway.Proofs.Binding.Reading

/-!
# Reading options over an object

What is read from an object with options over it is told place by place. What the options leave
alone is read as it is written, an object over an object is read part by part, and any other option
is read alone, in the place of what was there.
-/

namespace FilterGateway

theorem Table.keys_eq_singleton_iff {α : Type} {t : Table α} {key : String} :
    t.keys = [key] ↔ ∃ v, t = [(key, v)] := by
  rcases t with _ | ⟨⟨k, v⟩, _ | ⟨entry, rest⟩⟩ <;> simp [Table.keys]

theorem Fields.merge_eq_nil_iff {base options : Fields} (hoptions : options.Sorted) :
    base.merge options = [] ↔ base = [] ∧ options = [] := by
  rw [Table.eq_nil_iff_get?, Table.eq_nil_iff_get?, Table.eq_nil_iff_get?, ← forall_and]
  refine forall_congr' fun key => ?_
  rw [Fields.get?_merge_eq_layer base hoptions]
  cases Table.get? key options <;> simp

theorem Table.head?_eq_get? {α : Type} {t : Table α} {key : String}
    (h : ∀ name, (t.get? name).isSome → name = key) : t.head?.map (·.2) = t.get? key := by
  rcases t with _ | ⟨⟨name, v⟩, rest⟩
  · rfl
  · obtain rfl : name = key := h name (by simp [Table.get?])
    simp [Table.get?]

theorem Fields.head?_of_merge_eq_singleton {base options : Fields} (hoptions : options.Sorted)
    {key : String} {written : Json} (h : base.merge options = [(key, written)]) :
    base.head?.map (·.2) = base.get? key ∧ options.head?.map (·.2) = options.get? key := by
  have honly : ∀ name, (Json.layer (base.get? name) (options.get? name)).isSome → name = key := by
    intro name hsome
    rw [← Fields.get?_merge_eq_layer base hoptions, h] at hsome
    obtain ⟨merged, hmerged⟩ := Option.isSome_iff_exists.mp hsome
    exact Table.eq_of_get?_singleton hmerged
  constructor
  · refine Table.head?_eq_get? fun name hsome => honly name ?_
    cases hsetting : Table.get? name options with
    | none => exact hsome
    | some setting => rfl
  · refine Table.head?_eq_get? fun name hsome => honly name ?_
    obtain ⟨setting, hsetting⟩ := Option.isSome_iff_exists.mp hsome
    rw [hsetting]
    rfl

section Results

variable {ε α β : Type} {f : α → Except ε β}

theorem mapM_eq_ok_iff_forall₂ {as : List α} {bs : List β} :
    as.mapM f = .ok bs ↔ List.Forall₂ (fun a b => f a = .ok b) as bs := by
  induction as generalizing bs with
  | nil => simp [pure, Except.pure, eq_comm]
  | cons a as ih =>
    rw [List.mapM_cons, List.forall₂_cons_left_iff]
    simp only [bind_eq_ok_iff, ih, pure, Except.pure, Except.ok.injEq]
    constructor
    · rintro ⟨b, hb, rest, hrest, rfl⟩
      exact ⟨b, rest, hb, hrest, rfl⟩
    · rintro ⟨b, rest, hb, hrest, rfl⟩
      exact ⟨b, hb, rest, hrest, rfl⟩

theorem forall₂_congr_of_mem {r r' : α → β → Prop} {as : List α} {bs : List β}
    (h : ∀ a ∈ as, ∀ b, r a b ↔ r' a b) : List.Forall₂ r as bs ↔ List.Forall₂ r' as bs := by
  induction as generalizing bs with
  | nil => simp
  | cons a as ih =>
    rw [List.forall_mem_cons] at h
    simp only [List.forall₂_cons_left_iff, h.1, ih h.2]

end Results

namespace Shape

/-- How a place is read, by what is written there and what the options have there. What the options
leave alone is read as it is written, and an object over an object part by part; any other option is
read in the place of what was there. -/
def JoinedAt (reads : Json → Prop) (joined : Fields → Fields → Prop) :
    Option Json → Option Json → Prop
  | written?, none => ∃ written ∈ written?, reads written
  | some (.object base), some (.object options) => joined base options
  | _, some setting => reads setting

/-- How a field is read from the entries that name it and the options that do: both name it by the
same key, or neither does and the field is missing. -/
def JoinedField (rule : FieldRule) (s : Shape) (joined : Fields → Fields → s.Value → Prop)
    (base options : Fields) (value : s.Value) : Prop :=
  (base = [] ∧ options = [] ∧ standIn rule s = .ok value) ∨
    ∃ key, Table.keys (base.merge options) = [key] ∧
      JoinedAt (decode s · = .ok value) (joined · · value) (base.get? key) (options.get? key)

mutual

/-- Whether a value is what an object is read as once options are laid over it. -/
def Joined : (s : Shape) → Fields → Fields → s.Value → Prop
  | .option s, base, options, some value => Joined s base options value
  | .json, base, options, value => value = .object (base.merge options)
  | .map key s, base, options, entries =>
    List.Forall₂ (fun name entry => key.decode name = .ok entry.1 ∧
      JoinedAt (decode s · = .ok entry.2) (Joined s · · entry.2) (base.get? name)
        (options.get? name)) (Table.keys (base.merge options)) entries
  | .record _ fields others, base, options, (values, kept) =>
    JoinedRow fields base options values ∧
      GivenOthers others (Fields.merge (strangers fields base) (strangers fields options)) kept
  | .external variants, base, options, value =>
    ∃ name, Table.keys (base.merge options) = [name] ∧
      JoinedVariant variants name (base.get? name) (options.get? name) value
  | .tagged _ tag variants, base, options, value =>
    ∃ name, (options.get? tag).or (base.get? tag) = some (.text name) ∧
      JoinedTagged variants name (base.erase tag) (options.erase tag) value
  | .untagged _ alternatives, base, options, value =>
    JoinedAlternative alternatives base options value
  | _, _, _, _ => False

def JoinedRow : (fields : List (FieldRule × Shape)) → Fields → Fields → FieldRow fields → Prop
  | [], _, _, _ => True
  | (rule, s) :: rest, base, options, (value, values) =>
    JoinedField rule s (Joined s) (base.restrict rule.matches) (options.restrict rule.matches)
        value ∧
      JoinedRow rest (base.restrict fun key => !rule.matches key)
        (options.restrict fun key => !rule.matches key) values

/-- The variant that a name calls holds what stands under the name. -/
def JoinedVariant : (variants : List (String × Shape)) → String → Option Json → Option Json →
    Variant variants → Prop
  | (label, s) :: _, name, below, setting, .inl value =>
    label = name ∧ JoinedAt
      (fun written => variantPayload s (some written) = .ok written ∧ decode s written = .ok value)
      (Joined s · · value) below setting
  | (label, _) :: rest, name, below, setting, .inr value =>
    label ≠ name ∧ JoinedVariant rest name below setting value

/-- The variant that a tag calls holds what stands beside the tag. -/
def JoinedTagged : (variants : List (String × Shape)) → String → Fields → Fields →
    Variant variants → Prop
  | (label, s) :: _, name, base, options, .inl value =>
    label = name ∧ (s = .unit ∨ Joined s base options value)
  | (label, _) :: rest, name, base, options, .inr value =>
    label ≠ name ∧ JoinedTagged rest name base options value

/-- The first alternative that there is a value of is the one. -/
def JoinedAlternative : (alternatives : List Shape) → Fields → Fields → Alternative alternatives →
    Prop
  | s :: _, base, options, .inl value => Joined s base options value
  | s :: rest, base, options, .inr value =>
    (∀ other, ¬Joined s base options other) ∧ JoinedAlternative rest base options value

end

/-- Whether places tell what is read from an object with options over it. -/
def Joins (s : Shape) : Prop :=
  ∀ ⦃base options : Fields⦄, (Json.object base).Ordered → (Json.object options).Ordered →
    ∀ value, decode s (.object (base.merge options)) = .ok value ↔ Joined s base options value

section Joins

variable {s : Shape} {base options : Fields}

theorem joinedAt_iff (reads : Json → Prop) {joined : Fields → Fields → Prop}
    (h : ∀ lower upper : Fields, (Json.object lower).Ordered → (Json.object upper).Ordered →
      (reads (.object (lower.merge upper)) ↔ joined lower upper))
    (hbase : (Json.object base).Ordered) (hoptions : (Json.object options).Ordered)
    {name : String} {written : Json} (hget : Table.get? name (base.merge options) = some written) :
    reads written ↔ JoinedAt reads joined (Table.get? name base) (Table.get? name options) := by
  rw [Fields.get?_merge_eq_layer base hoptions.sorted] at hget
  rcases hsetting : Table.get? name options with _ | setting
  · rw [hsetting, Json.layer_none] at hget
    simp [JoinedAt, hget]
  rw [hsetting, Json.layer_some] at hget
  obtain rfl := Option.some.inj hget
  rcases hbelow : Table.get? name base with _ | below
  · rw [Json.mergeOver_none]
    cases setting <;> rfl
  cases below with
  | object lower =>
    cases setting with
    | object upper =>
      rw [Json.mergeOver_object_object]
      exact h lower upper (hbase.of_get? hbelow) (hoptions.of_get? hsetting)
    | _ =>
      rw [Json.mergeOver_of_ne_object (by simp)]
      rfl
  | _ =>
    rw [Json.mergeOver_of_base_ne_object (by simp)]
    cases setting <;> rfl

theorem Joins.joinedAt (h : Joins s) (hbase : (Json.object base).Ordered)
    (hoptions : (Json.object options).Ordered) {name : String} {written : Json}
    (hget : Table.get? name (base.merge options) = some written) (value : s.Value) :
    decode s written = .ok value ↔
      JoinedAt (decode s · = .ok value) (Joined s · · value) (Table.get? name base)
        (Table.get? name options) :=
  joinedAt_iff (decode s · = .ok value) (fun _ _ hlower hupper => h hlower hupper value)
    hbase hoptions hget

/-! ### Records -/

theorem given_iff_of_entries {rule : FieldRule} {entries : Fields} {value : s.Value} :
    Given rule s entries value ↔ (entries = [] ∧ standIn rule s = .ok value) ∨
      ∃ key written, entries = [(key, written)] ∧ decode s written = .ok value := by
  rcases entries with _ | ⟨⟨key, written⟩, _ | ⟨entry, rest⟩⟩ <;> simp [Given]

theorem Joins.field (h : Joins s) {rule : FieldRule} (hbase : (Json.object base).Ordered)
    (hoptions : (Json.object options).Ordered) (value : s.Value) :
    Given rule s (base.merge options) value ↔ JoinedField rule s (Joined s) base options value := by
  rw [given_iff_of_entries, JoinedField, Fields.merge_eq_nil_iff hoptions.sorted,
    and_assoc]
  refine or_congr_right (exists_congr fun key => ?_)
  rw [Table.keys_eq_singleton_iff, exists_and_right.symm]
  refine exists_congr fun written => and_congr_right fun honly => ?_
  refine h.joinedAt hbase hoptions ?_ value
  rw [honly, Table.get?_cons_self]

theorem givenRow_merge_iff {fields : List (FieldRule × Shape)}
    (h : ∀ field ∈ fields, Joins field.2) (hbase : (Json.object base).Ordered)
    (hoptions : (Json.object options).Ordered) (values : FieldRow fields) :
    GivenRow fields (base.merge options) values ↔ JoinedRow fields base options values := by
  induction fields generalizing base options with
  | nil => rfl
  | cons field rest ih =>
    obtain ⟨rule, s⟩ := field
    obtain ⟨value, values⟩ := values
    rw [List.forall_mem_cons] at h
    rw [GivenRow, JoinedRow, Fields.restrict_merge _ hbase.sorted hoptions.sorted,
      Fields.restrict_merge _ hbase.sorted hoptions.sorted,
      h.1.field (hbase.restrict _) (hoptions.restrict _),
      ih h.2 (hbase.restrict _) (hoptions.restrict _)]

theorem strangers_merge (fields : List (FieldRule × Shape)) (hbase : Table.Sorted base)
    (hoptions : Table.Sorted options) :
    strangers fields (base.merge options) =
      Fields.merge (strangers fields base) (strangers fields options) := by
  induction fields generalizing base options with
  | nil => rfl
  | cons field rest ih =>
    rw [strangers, Fields.restrict_merge _ hbase hoptions]
    exact ih (Table.sorted_restrict _ hbase) (Table.sorted_restrict _ hoptions)

theorem joins_record (title : String) {fields : List (FieldRule × Shape)} (others : Others)
    (h : ∀ field ∈ fields, Joins field.2) : Joins (.record title fields others) := by
  rintro base options hbase hoptions ⟨values, kept⟩
  rw [decode_record_eq_ok_iff, Joined, givenRow_merge_iff h hbase hoptions,
    strangers_merge fields hbase.sorted hoptions.sorted]

/-! ### Maps and choices -/

theorem Joins.map (h : Joins s) (key : KeyShape) : Joins (.map key s) := by
  intro base options hbase hoptions entries
  rw [decode_map_object, mapM_eq_ok_iff_forall₂, Joined, Table.keys, List.forall₂_map_left_iff]
  refine forall₂_congr_of_mem fun written hmem entry => ?_
  rw [decodeEntry_eq_ok_iff]
  refine and_congr_right fun _ => h.joinedAt hbase hoptions ?_ entry.2
  exact Table.get?_of_mem (Fields.sorted_merge hbase.sorted options) hmem

theorem decodeVariant_merge_iff {known : List String} {variants : List (String × Shape)}
    (h : ∀ variant ∈ variants, Joins variant.2) (hbase : (Json.object base).Ordered)
    (hoptions : (Json.object options).Ordered) {name : String} {payload : Json}
    (hget : Table.get? name (base.merge options) = some payload) (value : Variant variants) :
    decodeVariant known variants name (some payload) = .ok value ↔
      JoinedVariant variants name (base.get? name) (options.get? name) value := by
  induction variants with
  | nil => exact value.elim
  | cons variant rest ih =>
    obtain ⟨label, s⟩ := variant
    rw [List.forall_mem_cons] at h
    rcases value with held | other
    · rw [decodeVariant_inl_iff, JoinedVariant]
      refine and_congr_right fun _ => joinedAt_iff (fun written =>
        variantPayload s (some written) = .ok written ∧ decode s written = .ok held)
        (fun lower upper hlower hupper => ?_) hbase hoptions hget
      rw [← h.1 hlower hupper, and_iff_right]
      cases s <;> rfl
    · rw [decodeVariant_inr_iff, JoinedVariant, ih h.2]

theorem joins_external {variants : List (String × Shape)}
    (h : ∀ variant ∈ variants, Joins variant.2) : Joins (.external variants) := by
  intro base options hbase hoptions value
  rw [decode_external_eq_ok_iff, Joined]
  refine exists_congr fun name => ?_
  rw [Table.keys_eq_singleton_iff, exists_and_right.symm]
  refine exists_congr fun payload => and_congr_right fun honly => ?_
  refine decodeVariant_merge_iff h hbase hoptions ?_ value
  rw [honly, Table.get?_cons_self]

theorem get?_merge_eq_text_iff (hoptions : (Json.object options).Ordered) {tag name : String} :
    Table.get? tag (base.merge options) = some (.text name) ↔
      (Table.get? tag options).or (Table.get? tag base) = some (.text name) := by
  rw [Fields.get?_merge_eq_layer base hoptions.sorted]
  rcases Table.get? tag options with _ | setting
  · rfl
  cases setting with
  | object upper =>
    obtain ⟨merged, hmerged⟩ := Json.exists_mergeOver_object (Table.get? tag base) upper
    simp [hmerged]
  | _ => simp [Json.mergeOver_of_ne_object]

theorem decodeTagged_merge_iff {known : List String} {variants : List (String × Shape)}
    (h : ∀ variant ∈ variants, Joins variant.2) (hbase : (Json.object base).Ordered)
    (hoptions : (Json.object options).Ordered) {name : String} (value : Variant variants) :
    decodeTagged known variants name (.object (base.merge options)) = .ok value ↔
      JoinedTagged variants name base options value := by
  induction variants with
  | nil => exact value.elim
  | cons variant rest ih =>
    obtain ⟨label, s⟩ := variant
    rw [List.forall_mem_cons] at h
    rcases value with held | other
    · rw [decodeTagged_inl_iff, JoinedTagged, h.1 hbase hoptions]
    · rw [decodeTagged_inr_iff, JoinedTagged, ih h.2]

theorem joins_tagged (title tag : String) {variants : List (String × Shape)}
    (h : ∀ variant ∈ variants, Joins variant.2) : Joins (.tagged title tag variants) := by
  intro base options hbase hoptions value
  rw [decode_tagged_eq_ok_iff, Joined]
  refine exists_congr fun name => ?_
  rw [get?_merge_eq_text_iff hoptions, Fields.erase_merge tag hbase.sorted hoptions.sorted]
  refine and_congr_right fun _ => ?_
  exact decodeTagged_merge_iff h (hbase.restrict (· != tag)) (hoptions.restrict (· != tag)) value

theorem decodeAlternative_merge_iff (title : String) {alternatives : List Shape}
    (h : ∀ s ∈ alternatives, Joins s) (hbase : (Json.object base).Ordered)
    (hoptions : (Json.object options).Ordered) (value : Alternative alternatives) :
    decodeAlternative title alternatives (.object (base.merge options)) = .ok value ↔
      JoinedAlternative alternatives base options value := by
  induction alternatives with
  | nil => exact value.elim
  | cons s rest ih =>
    rw [List.forall_mem_cons] at h
    rcases value with one | other
    · rw [decodeAlternative_inl_iff, JoinedAlternative, h.1 hbase hoptions]
    · rw [decodeAlternative_inr_iff, JoinedAlternative, ih h.2]
      simp only [ne_eq, h.1 hbase hoptions]

theorem Joins.option (h : Joins s) : Joins (.option s) := by
  intro base options hbase hoptions value
  have hdecode : decode (.option s) (.object (base.merge options)) =
      (decode s (.object (base.merge options))).map some := rfl
  rw [hdecode, map_eq_ok_iff]
  rcases value with _ | value
  · simp [Joined]
  · simp [Joined, h hbase hoptions]

theorem joins_json : Joins .json := by
  intro base options _ _ value
  rw [Joined, decode, Except.ok.injEq, eq_comm]

end Joins

mutual

/-- Places tell what is read from an object with options over it, for values of any shape. -/
theorem joins : (s : Shape) → Joins s
  | .option s => (joins s).option
  | .json => joins_json
  | .map key s => (joins s).map key
  | .record title fields others => joins_record title others (joins_fields fields)
  | .external variants => joins_external (joins_variants variants)
  | .tagged title tag variants => joins_tagged title tag (joins_variants variants)
  | .untagged title alternatives => fun _ _ hbase hoptions value =>
    decodeAlternative_merge_iff title (joins_alternatives alternatives) hbase hoptions value
  | .unit | .bool | .int _ | .single | .double | .char | .text | .list _ | .tuple _ _ =>
    fun _ _ _ _ _ => iff_of_false nofun id

theorem joins_fields : (fields : List (FieldRule × Shape)) → ∀ field ∈ fields, Joins field.2
  | [] => fun _ hmem => by cases hmem
  | (_, s) :: rest => List.forall_mem_cons.mpr ⟨joins s, joins_fields rest⟩

theorem joins_variants : (variants : List (String × Shape)) →
    ∀ variant ∈ variants, Joins variant.2
  | [] => fun _ hmem => by cases hmem
  | (_, s) :: rest => List.forall_mem_cons.mpr ⟨joins s, joins_variants rest⟩

theorem joins_alternatives : (alternatives : List Shape) → ∀ s ∈ alternatives, Joins s
  | [] => fun _ hmem => by cases hmem
  | s :: rest => List.forall_mem_cons.mpr ⟨joins s, joins_alternatives rest⟩

end

end Shape

end FilterGateway
