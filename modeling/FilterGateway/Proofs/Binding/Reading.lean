import FilterGateway.Proofs.Binding.Merging
import FilterGateway.Shape.Decode

/-!
# How values are read from objects

The entries of an object are read in the order of their keys, but a record that can be read does not
depend on this order: each field has the entries that name it, at most one, and no other part in the
object. So a record is read from an object exactly when each of its fields is read from its own
entries, and the entries that name no field are what the record makes of them. An entry of a map is
read by itself, and a choice by its name, its tag or the first alternative that fits.
-/

namespace FilterGateway

section Results

variable {ε α β : Type} {result : Except ε α} {b : β}

theorem bind_eq_ok_iff {next : α → Except ε β} :
    result >>= next = .ok b ↔ ∃ a, result = .ok a ∧ next a = .ok b := by
  cases result with
  | error e => simp [bind, Except.bind]
  | ok a => simp [bind, Except.bind]

theorem map_eq_ok_iff {f : α → β} : result.map f = .ok b ↔ ∃ a, result = .ok a ∧ f a = b := by
  cases result with
  | error e => simp [Except.map]
  | ok a => simp [Except.map]

theorem map_eq_error_iff {f : α → β} {e : ε} : result.map f = .error e ↔ result = .error e := by
  cases result with
  | error e => simp [Except.map]
  | ok a => simp [Except.map]

theorem foldlM_cons_eq_ok_iff {step : β → α → Except ε β} {b c : β} {a : α} {as : List α} :
    (a :: as).foldlM step b = .ok c ↔ ∃ b', step b a = .ok b' ∧ as.foldlM step b' = .ok c := by
  rw [List.foldlM_cons, bind_eq_ok_iff]

theorem mem_of_mapM_eq_ok {f : α → Except ε β} {as : List α} {bs : List β}
    (h : as.mapM f = .ok bs) : b ∈ bs ↔ ∃ a ∈ as, f a = .ok b := by
  induction as generalizing bs with
  | nil =>
    obtain rfl : [] = bs := Except.ok.inj h
    simp
  | cons a as ih =>
    rw [List.mapM_cons] at h
    obtain ⟨c, hc, h⟩ := bind_eq_ok_iff.mp h
    obtain ⟨cs, hcs, h⟩ := bind_eq_ok_iff.mp h
    obtain rfl : c :: cs = bs := Except.ok.inj h
    simp [ih hcs, hc, eq_comm]

theorem exists_mapM_eq_ok_iff {f : α → Except ε β} {as : List α} :
    (∃ bs, as.mapM f = .ok bs) ↔ ∀ a ∈ as, ∃ b, f a = .ok b := by
  induction as with
  | nil => exact iff_of_true ⟨[], rfl⟩ (by simp)
  | cons a as ih =>
    rw [List.forall_mem_cons, ← ih, List.mapM_cons]
    constructor
    · rintro ⟨_, h⟩
      obtain ⟨b, hb, h⟩ := bind_eq_ok_iff.mp h
      obtain ⟨bs, hbs, -⟩ := bind_eq_ok_iff.mp h
      exact ⟨⟨b, hb⟩, bs, hbs⟩
    · rintro ⟨⟨b, hb⟩, bs, hbs⟩
      exact ⟨b :: bs, bind_eq_ok_iff.mpr ⟨b, hb, bind_eq_ok_iff.mpr ⟨bs, hbs, rfl⟩⟩⟩

end Results

namespace Shape

/-- What a field is when nothing names it. -/
def standIn (rule : FieldRule) (s : Shape) : Except DecodeError s.Value :=
  match rule.fallback, s.whenMissing? with
  | some written, _ => decode s written
  | none, some value => pure value
  | none, none => throw (.missingField rule.name)

/-- How a field is read from the entries that name it. -/
def Given (rule : FieldRule) (s : Shape) : Fields → s.Value → Prop
  | [], value => standIn rule s = .ok value
  | [(_, written)], value => decode s written = .ok value
  | _, _ => False

theorem Given.of_get? {rule : FieldRule} {s : Shape} {entries : Fields} {value : s.Value}
    (h : Given rule s entries value) {key : String} {written : Json}
    (hget : Table.get? key entries = some written) :
    entries = [(key, written)] ∧ decode s written = .ok value := by
  rcases entries with _ | ⟨⟨k, w⟩, _ | ⟨entry, entries⟩⟩
  · cases hget
  · have hmem := Table.mem_of_get? hget
    obtain ⟨rfl, rfl⟩ := Prod.mk.inj (List.mem_singleton.mp hmem)
    exact ⟨rfl, h⟩
  · exact h.elim

/-- How the fields of a record are read from entries. A key belongs to the first field it names. -/
def GivenRow : (fields : List (FieldRule × Shape)) → Fields → FieldRow fields → Prop
  | [], _, _ => True
  | (rule, s) :: rest, entries, (value, values) =>
    Given rule s (Table.restrict rule.matches entries) value ∧
      GivenRow rest (Table.restrict (fun key => !rule.matches key) entries) values

/-- The entries that belong to no field. -/
def strangers : List (FieldRule × Shape) → Fields → Fields
  | [], entries => entries
  | (rule, _) :: rest, entries =>
    strangers rest (Table.restrict (fun key => !rule.matches key) entries)

/-- What a record makes of the entries that belong to no field. -/
def GivenOthers : (others : Others) → Fields → others.Value → Prop
  | .ignored, _, _ => True
  | .refused, entries, _ => entries = []
  | .kept, entries, kept => Table.ofList entries = kept

/-! ### One entry after the other -/

/-- The fields read so far, and the entries kept so far, after one more entry. -/
def takeEntry (fields : List (FieldRule × Shape)) (others : Others) (known : List String)
    (state : Draft fields × Fields) (entry : String × Json) :
    Except DecodeError (Draft fields × Fields) := do
  match ← offer fields state.1 entry.1 entry.2 with
  | some draft => pure (draft, state.2)
  | none => pure (state.1, ← takeOther others known state.2 entry.1 entry.2)

theorem decode_record_object (title : String) (fields : List (FieldRule × Shape)) (others : Others)
    (entries : Fields) :
    decode (.record title fields others) (.object entries) = (do
      let (draft, kept) ← entries.foldlM (takeEntry fields others (fields.map (·.1.name)))
        (blank fields, [])
      let values ← complete fields draft
      pure (values, keepOthers others kept)) := rfl

/-- One field after an entry that names it. -/
def fillSlot (rule : FieldRule) (s : Shape) (slot : Option s.Value) (entry : String × Json) :
    Except DecodeError (Option s.Value) :=
  match slot with
  | some _ => .error (.duplicateField rule.name)
  | none => (decode s entry.2).map some

section Cons

variable {rule : FieldRule} {s : Shape} {rest : List (FieldRule × Shape)} {others : Others}
  {known : List String} {slot : Option s.Value} {draft : Draft rest} {kept : Fields}

theorem takeEntry_of_matches (entry : String × Json) (h : rule.matches entry.1 = true) :
    takeEntry ((rule, s) :: rest) others known ((slot, draft), kept) entry =
      (fillSlot rule s slot entry).map fun slot => ((slot, draft), kept) := by
  rcases slot with _ | value
  · rcases hdecode : decode s entry.2 with e | value <;>
      simp [takeEntry, offer, fillSlot, h, hdecode, Except.map, bind, Except.bind, pure,
        Except.pure]
  · simp [takeEntry, offer, fillSlot, h, Except.map, bind, Except.bind]

theorem takeEntry_of_not_matches (entry : String × Json) (h : rule.matches entry.1 = false) :
    takeEntry ((rule, s) :: rest) others known ((slot, draft), kept) entry =
      (takeEntry rest others known (draft, kept) entry).map fun state =>
        ((slot, state.1), state.2) := by
  rcases hoffer : offer rest draft entry.1 entry.2 with e | _ | draft'
  · simp [takeEntry, offer, h, hoffer, Except.map, bind, Except.bind]
  · rcases hother : takeOther others known kept entry.1 entry.2 with e | kept' <;>
      simp [takeEntry, offer, h, hoffer, hother, Except.map, bind, Except.bind, pure, Except.pure]
  · simp [takeEntry, offer, h, hoffer, Except.map, bind, Except.bind, pure, Except.pure]

end Cons

theorem foldlM_takeEntry_cons (rule : FieldRule) (s : Shape) (rest : List (FieldRule × Shape))
    (others : Others) (known : List String) (entries : Fields) (slot slot' : Option s.Value)
    (draft draft' : Draft rest) (kept kept' : Fields) :
    entries.foldlM (takeEntry ((rule, s) :: rest) others known) ((slot, draft), kept) =
        .ok ((slot', draft'), kept') ↔
      (Table.restrict rule.matches entries).foldlM (fillSlot rule s) slot = .ok slot' ∧
        (Table.restrict (fun key => !rule.matches key) entries).foldlM
          (takeEntry rest others known) (draft, kept) = .ok (draft', kept') := by
  induction entries generalizing slot draft kept with
  | nil =>
    simp only [Table.restrict_nil, List.foldlM_nil, pure, Except.pure, Except.ok.injEq,
      Prod.mk.injEq]
    exact and_assoc
  | cons entry entries ih =>
    rw [foldlM_cons_eq_ok_iff, Table.restrict_cons, Table.restrict_cons]
    rcases hmatches : rule.matches entry.1 with _ | _
    · rw [takeEntry_of_not_matches entry hmatches]
      simp only [Bool.false_eq_true, if_false, Bool.not_false, if_true]
      rw [foldlM_cons_eq_ok_iff]
      constructor
      · rintro ⟨state, hstep, hentries⟩
        obtain ⟨⟨d, k⟩, htaken, rfl⟩ := map_eq_ok_iff.mp hstep
        obtain ⟨hslot, hrest⟩ := (ih _ _ _).mp hentries
        exact ⟨hslot, _, htaken, hrest⟩
      · rintro ⟨hslot, ⟨d, k⟩, hstep, hrest⟩
        exact ⟨_, map_eq_ok_iff.mpr ⟨_, hstep, rfl⟩, (ih _ _ _).mpr ⟨hslot, hrest⟩⟩
    · rw [takeEntry_of_matches entry hmatches]
      simp only [if_true, Bool.not_true, Bool.false_eq_true, if_false]
      rw [foldlM_cons_eq_ok_iff]
      constructor
      · rintro ⟨state, hstep, hentries⟩
        obtain ⟨filled, hfilled, rfl⟩ := map_eq_ok_iff.mp hstep
        obtain ⟨hslot, hrest⟩ := (ih _ _ _).mp hentries
        exact ⟨⟨filled, hfilled, hslot⟩, hrest⟩
      · rintro ⟨⟨slot, hstep, hslot⟩, hrest⟩
        exact ⟨_, map_eq_ok_iff.mpr ⟨_, hstep, rfl⟩, (ih _ _ _).mpr ⟨hslot, hrest⟩⟩

theorem foldlM_takeEntry_nil (others : Others) (known : List String) (entries kept : Fields) :
    entries.foldlM (takeEntry [] others known) ((), kept) =
      (entries.foldlM (fun kept entry => takeOther others known kept entry.1 entry.2) kept).map
        fun kept => ((), kept) := by
  induction entries generalizing kept with
  | nil => rfl
  | cons entry entries ih =>
    rw [List.foldlM_cons, List.foldlM_cons]
    rcases hother : takeOther others known kept entry.1 entry.2 with e | k
    · simp [takeEntry, offer, hother, Except.map, bind, Except.bind]
    · have hstep : takeEntry [] others known ((), kept) entry = .ok ((), k) := by
        simp [takeEntry, offer, hother, bind, Except.bind, pure, Except.pure]
      rw [hstep]
      exact ih k

theorem foldlM_fillSlot_some (rule : FieldRule) (s : Shape) (value : s.Value)
    (entries : Fields) (slot : Option s.Value) :
    entries.foldlM (fillSlot rule s) (some value) = .ok slot ↔
      entries = [] ∧ slot = some value := by
  cases entries with
  | nil => simp [pure, Except.pure, eq_comm]
  | cons entry entries =>
    rw [foldlM_cons_eq_ok_iff]
    simp [fillSlot]

theorem complete_cons (rule : FieldRule) (s : Shape) (rest : List (FieldRule × Shape))
    (slot : Option s.Value) (draft : Draft rest) :
    complete ((rule, s) :: rest) (slot, draft) = (do
      let value ← slot.elim (standIn rule s) pure
      let values ← complete rest draft
      pure (value, values)) := by
  rcases slot with _ | value
  · rcases hfallback : rule.fallback with _ | written
    · rcases hmissing : s.whenMissing? with _ | value <;>
        simp [complete, standIn, hfallback, hmissing]
    · simp [complete, standIn, hfallback]
  · simp [complete]

theorem given_iff (rule : FieldRule) (s : Shape) (entries : Fields) (value : s.Value) :
    Given rule s entries value ↔
      ∃ slot : Option s.Value, entries.foldlM (fillSlot rule s) none = .ok slot ∧
        slot.elim (standIn rule s) pure = .ok value := by
  rcases entries with _ | ⟨entry, _ | ⟨entry', entries⟩⟩
  · simp [Given, pure, Except.pure]
  · simp only [Given, List.foldlM_cons, List.foldlM_nil, fillSlot]
    rcases decode s entry.2 with e | v <;>
      simp [Except.map, bind, Except.bind, pure, Except.pure]
  · simp only [Given, false_iff, not_exists, not_and]
    intro slot hslot
    obtain ⟨slot', hstep, hentries⟩ := foldlM_cons_eq_ok_iff.mp hslot
    obtain ⟨v, _, rfl⟩ := map_eq_ok_iff.mp hstep
    rw [foldlM_fillSlot_some] at hentries
    exact absurd hentries.1 (List.cons_ne_nil _ _)

/-- The fields of a record are read from the entries that name them, in whatever order. -/
theorem givenRow_iff (fields : List (FieldRule × Shape)) (others : Others) (known : List String)
    (entries kept kept' : Fields) (values : FieldRow fields) :
    (∃ draft, entries.foldlM (takeEntry fields others known) (blank fields, kept) =
        .ok (draft, kept') ∧ complete fields draft = .ok values) ↔
      GivenRow fields entries values ∧
        (strangers fields entries).foldlM (fun kept entry =>
          takeOther others known kept entry.1 entry.2) kept = .ok kept' := by
  induction fields generalizing entries kept with
  | nil =>
    simp only [blank, GivenRow, strangers, true_and]
    have hnil := foldlM_takeEntry_nil others known entries kept
    constructor
    · rintro ⟨_, hentries, _⟩
      obtain ⟨k, hk, heq⟩ := map_eq_ok_iff.mp (hnil.symm.trans hentries)
      obtain rfl : k = kept' := congrArg Prod.snd heq
      exact hk
    · intro hk
      exact ⟨(), hnil.trans (map_eq_ok_iff.mpr ⟨_, hk, rfl⟩), rfl⟩
  | cons field rest ih =>
    obtain ⟨rule, s⟩ := field
    obtain ⟨value, values⟩ := values
    rw [GivenRow, strangers, given_iff, and_assoc, ← ih]
    constructor
    · rintro ⟨⟨slot, draft⟩, hentries, hcomplete⟩
      obtain ⟨hslot, hrest⟩ := (foldlM_takeEntry_cons ..).mp hentries
      rw [complete_cons, bind_eq_ok_iff] at hcomplete
      obtain ⟨v, hv, hcomplete⟩ := hcomplete
      obtain ⟨vs, hvs, heq⟩ := bind_eq_ok_iff.mp hcomplete
      obtain ⟨rfl, rfl⟩ := Prod.mk.inj (Except.ok.inj heq)
      exact ⟨⟨slot, hslot, hv⟩, draft, hrest, hvs⟩
    · rintro ⟨⟨slot, hslot, hv⟩, draft, hrest, hvs⟩
      refine ⟨(slot, draft), (foldlM_takeEntry_cons ..).mpr ⟨hslot, hrest⟩, ?_⟩
      rw [complete_cons, hv, bind_eq_ok_iff]
      exact ⟨value, rfl, bind_eq_ok_iff.mpr ⟨values, hvs, rfl⟩⟩

theorem givenOthers_iff (others : Others) (known : List String) (entries : Fields)
    (kept : others.Value) :
    GivenOthers others entries kept ↔
      ∃ kept', entries.foldlM (fun kept entry => takeOther others known kept entry.1 entry.2) [] =
        .ok kept' ∧ keepOthers others kept' = kept := by
  cases others with
  | ignored =>
    have hfold : ∀ kept : Fields, entries.foldlM (fun kept entry =>
        takeOther .ignored known kept entry.1 entry.2) kept = .ok kept := by
      intro kept
      induction entries with
      | nil => rfl
      | cons entry entries ih => rw [List.foldlM_cons]; exact ih
    simp [GivenOthers, hfold]
  | refused =>
    cases entries with
    | nil => simp [GivenOthers, pure, Except.pure]
    | cons entry entries => simp [GivenOthers, takeOther, bind, Except.bind]
  | kept =>
    have hfold : ∀ start : Fields, entries.foldlM (fun kept entry =>
        takeOther .kept known kept entry.1 entry.2) start =
          .ok (entries.foldl (fun t entry => Table.insert entry.1 entry.2 t) start) := by
      intro start
      induction entries generalizing start with
      | nil => rfl
      | cons entry entries ih => rw [List.foldlM_cons]; exact ih _
    simp [GivenOthers, hfold, keepOthers, Table.ofList]

/-- A record is read from an object exactly when each field is read from the entries that name it
and the other entries are as the record wants them. -/
theorem decode_record_eq_ok_iff {title : String} {fields : List (FieldRule × Shape)}
    {others : Others} {entries : Fields} {values : FieldRow fields} {kept : others.Value} :
    decode (.record title fields others) (.object entries) = .ok (values, kept) ↔
      GivenRow fields entries values ∧ GivenOthers others (strangers fields entries) kept := by
  rw [decode_record_object, givenOthers_iff others (fields.map (·.1.name)), bind_eq_ok_iff]
  constructor
  · rintro ⟨⟨draft, k⟩, hentries, hcomplete⟩
    obtain ⟨vs, hvs, heq⟩ := bind_eq_ok_iff.mp hcomplete
    obtain ⟨rfl, rfl⟩ := Prod.mk.inj (Except.ok.inj heq)
    obtain ⟨hrow, hothers⟩ := (givenRow_iff ..).mp ⟨draft, hentries, hvs⟩
    exact ⟨hrow, k, hothers, rfl⟩
  · rintro ⟨hrow, k, hothers, rfl⟩
    obtain ⟨draft, hentries, hvs⟩ := (givenRow_iff ..).mpr ⟨hrow, hothers⟩
    exact ⟨(draft, k), hentries, bind_eq_ok_iff.mpr ⟨values, hvs, rfl⟩⟩

/-! ### Maps and choices -/

section Choices

variable {s : Shape} {name : String} {written : Json}

/-- How an entry of a map is read. -/
def decodeEntry (key : KeyShape) (s : Shape) (entry : String × Json) :
    Except DecodeError (key.Value × s.Value) := do
  let k ← key.decode entry.1
  let value ← decode s entry.2
  pure (k, value)

theorem decode_map_object (key : KeyShape) (s : Shape) (entries : Fields) :
    decode (.map key s) (.object entries) = entries.mapM (decodeEntry key s) := rfl

theorem decodeEntry_eq_ok_iff {key : KeyShape} {entry : String × Json} {k : key.Value}
    {value : s.Value} : decodeEntry key s entry = .ok (k, value) ↔
      key.decode entry.1 = .ok k ∧ decode s entry.2 = .ok value := by
  rw [decodeEntry]
  simp only [bind_eq_ok_iff, pure, Except.pure, Except.ok.injEq, Prod.mk.injEq]
  constructor
  · rintro ⟨k', hk, value', hvalue, rfl, rfl⟩
    exact ⟨hk, hvalue⟩
  · rintro ⟨hk, hvalue⟩
    exact ⟨k, hk, value, hvalue, rfl, rfl⟩

theorem decode_external_eq_ok_iff {variants : List (String × Shape)} {entries : Fields}
    {value : Variant variants} : decode (.external variants) (.object entries) = .ok value ↔
      ∃ name payload, entries = [(name, payload)] ∧
        decodeVariant (variants.map (·.1)) variants name (some payload) = .ok value := by
  rcases entries with _ | ⟨⟨name, payload⟩, _ | ⟨entry, entries⟩⟩
  · exact iff_of_false nofun (by simp)
  · constructor
    · exact fun h => ⟨name, payload, rfl, h⟩
    · rintro ⟨_, _, ⟨⟩, h⟩
      exact h
  · exact iff_of_false nofun (by simp)

theorem variantPayload_some_eq_ok {payload payload' : Json}
    (h : variantPayload s (some payload) = .ok payload') : payload' = payload := by
  cases s with
  | record =>
    cases payload with
    | object fields =>
      cases h
      rfl
    | _ => cases h
  | _ => exact (Except.ok.inj h).symm

section Cons

variable {known : List String} {label : String} {rest : List (String × Shape)} {held : s.Value}
  {other : Variant rest}

theorem decodeVariant_inl_iff {payload : Json} :
    decodeVariant known ((label, s) :: rest) name (some payload) = .ok (.inl held) ↔
      label = name ∧ variantPayload s (some payload) = .ok payload ∧
        decode s payload = .ok held := by
  rw [decodeVariant]
  split
  case isTrue hlabel =>
    simp only [hlabel, bind_eq_ok_iff, pure, Except.pure, Except.ok.injEq, Sum.inl.injEq, true_and]
    constructor
    · rintro ⟨payload', hpayload, _, hread, rfl⟩
      obtain rfl := variantPayload_some_eq_ok hpayload
      exact ⟨hpayload, hread⟩
    · rintro ⟨hpayload, hread⟩
      exact ⟨payload, hpayload, held, hread, rfl⟩
  case isFalse hlabel => simp [hlabel, map_eq_ok_iff]

theorem decodeVariant_inr_iff {payload : Json} :
    decodeVariant known ((label, s) :: rest) name (some payload) = .ok (.inr other) ↔
      label ≠ name ∧ decodeVariant known rest name (some payload) = .ok other := by
  rw [decodeVariant]
  split
  case isTrue hlabel => simp [hlabel, bind_eq_ok_iff, pure, Except.pure]
  case isFalse hlabel => simp [hlabel, map_eq_ok_iff]

theorem decode_tagPayload_object_iff {entries : Fields} :
    decode s (tagPayload s (.object entries)) = .ok held ↔
      s = .unit ∨ decode s (.object entries) = .ok held := by
  cases s with
  | unit => exact iff_of_true rfl (.inl rfl)
  | _ => simp [tagPayload]

theorem noTagSurplus_object (s : Shape) (entries : Fields) :
    noTagSurplus s (.object entries) = .ok () := by
  cases s <;> rfl

theorem decodeTagged_inl_iff {entries : Fields} :
    decodeTagged known ((label, s) :: rest) name (.object entries) = .ok (.inl held) ↔
      label = name ∧ (s = .unit ∨ decode s (.object entries) = .ok held) := by
  rw [decodeTagged, ← decode_tagPayload_object_iff]
  split
  case isTrue hlabel =>
    simp [hlabel, noTagSurplus_object, bind_eq_ok_iff, pure, Except.pure]
  case isFalse hlabel => simp [hlabel, map_eq_ok_iff]

theorem decodeTagged_inr_iff {payload : Json} :
    decodeTagged known ((label, s) :: rest) name payload = .ok (.inr other) ↔
      label ≠ name ∧ decodeTagged known rest name payload = .ok other := by
  rw [decodeTagged]
  split
  case isTrue hlabel => simp [hlabel, bind_eq_ok_iff, pure, Except.pure]
  case isFalse hlabel => simp [hlabel, map_eq_ok_iff]

end Cons

theorem decode_tagged_eq_ok_iff {title tag : String} {variants : List (String × Shape)}
    {entries : Fields} {value : Variant variants} :
    decode (.tagged title tag variants) (.object entries) = .ok value ↔
      ∃ name, Table.get? tag entries = some (.text name) ∧
        decodeTagged (variants.map (·.1)) variants name (.object (Table.erase tag entries)) =
          .ok value := by
  have hdecode : decode (.tagged title tag variants) (.object entries) =
      splitTag tag entries >>= fun split =>
        decodeTagged (variants.map (·.1)) variants split.1 split.2 := rfl
  rw [hdecode, splitTag]
  cases hcalled : Table.get? tag entries with
  | none => simp [bind, Except.bind]
  | some called => cases called <;> simp [tagName, Except.map, bind, Except.bind]

section Alternatives

variable {title : String} {rest : List Shape}

theorem decodeAlternative_inl_iff {value : s.Value} :
    decodeAlternative title (s :: rest) written = .ok (.inl value) ↔
      decode s written = .ok value := by
  rw [decodeAlternative]
  split
  case h_1 one hread => simp [hread]
  case h_2 e hread => simp [hread, map_eq_ok_iff]

theorem decodeAlternative_inr_iff {value : Alternative rest} :
    decodeAlternative title (s :: rest) written = .ok (.inr value) ↔
      (∀ other, decode s written ≠ .ok other) ∧
        decodeAlternative title rest written = .ok value := by
  rw [decodeAlternative]
  split
  case h_1 one hread => simp [hread]
  case h_2 e hread => simp [hread, map_eq_ok_iff]

end Alternatives

end Choices

end Shape

end FilterGateway
