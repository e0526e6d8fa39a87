import FilterGateway.Proofs.Binding.Untouched

/-!
# What stands in the way of options

Options that can be read on their own may still fail to bind, although the value that they are laid
over can be read back, since they are read together with what is left of it. A field has to be named
as it is written, an object that holds a variant may hold no other, and another variant or
alternative has to have a place for what is left. A value without choices and second names never
stands in the way.
-/

namespace FilterGateway.Shape

/-- Whether something is read as a value of the shape. -/
def Fits (s : Shape) (written : Json) : Prop :=
  ∃ value : s.Value, decode s written = .ok value

/-- Whether what stands at a place lets an option in: only an object is read together with it. -/
def AdmitsUnder (admits : Fields → Fields → Prop) : Json → Json → Prop
  | .object base, .object options => admits base options
  | _, _ => True

/-- Whether the entry of a field lets an option in, which has to name the field by the same key. -/
def AdmitsField (admits : Fields → Fields → Prop) : Fields → Fields → Prop
  | (key, below) :: _, (name, setting) :: _ => key = name ∧ AdmitsUnder admits below setting
  | _, _ => True

mutual

/-- Whether what is left of an object has a place beside options, where each of them can be read
alone. Only another variant or alternative than the one that is left has to be looked at place by
place. -/
def Admits : (s : Shape) → Fields → Fields → Prop
  | .option s, base, options => Admits s base options
  | .map _ s, base, options =>
    ∀ name below setting, base.get? name = some below → options.get? name = some setting →
      AdmitsUnder (Admits s) below setting
  | .record _ fields _, base, options => AdmitsRow fields base options
  | .external variants, base, options =>
    ∀ name below, base.get? name = some below → ∃ setting, options.get? name = some setting ∧
      AdmitsUnder (AdmitsCalled True variants name) below setting
  | .tagged _ tag variants, base, options =>
    ∀ name, options.get? tag = some (.text name) →
      AdmitsCalled (base.get? tag = some (.text name)) variants name (base.erase tag)
        (options.erase tag)
  | .untagged _ alternatives, base, options =>
    ∃ s ∈ alternatives, ∃ value, Joined s base options value
  | _, _, _ => True

def AdmitsRow : (fields : List (FieldRule × Shape)) → Fields → Fields → Prop
  | [], _, _ => True
  | (rule, s) :: rest, base, options =>
    AdmitsField (Admits s) (base.restrict rule.matches) (options.restrict rule.matches) ∧
      AdmitsRow rest (base.restrict fun key => !rule.matches key)
        (options.restrict fun key => !rule.matches key)

/-- Whether what is left has a place in the variant that the options call, which may be the same as
before. -/
def AdmitsCalled (same : Prop) : (variants : List (String × Shape)) → String → Fields → Fields →
    Prop
  | [], _, _, _ => True
  | (label, s) :: rest, name, base, options =>
    (label = name → (same → Admits s base options) ∧
        (¬same → s = .unit ∨ ∃ value, Joined s base options value)) ∧
      (label ≠ name → AdmitsCalled same rest name base options)

end

/-- Whether admission decides which merged objects can be read. -/
def Settled (s : Shape) : Prop :=
  ∀ ⦃base options : Fields⦄, (Json.object base).Ordered → (Json.object options).Ordered →
    Fits s (.object base) → Fits s (.object options) →
      (Fits s (.object (base.merge options)) ↔ Admits s base options)

theorem fits_merge_iff (s : Shape) {base options : Fields} (hbase : (Json.object base).Ordered)
    (hoptions : (Json.object options).Ordered) :
    Fits s (.object (base.merge options)) ↔ ∃ value, Joined s base options value :=
  exists_congr (joins s hbase hoptions)

section Settled

variable {s : Shape} {base options : Fields} {below setting : Json}

theorem Settled.mergeOver (h : Settled s) (hbelow : below.Ordered) (hsetting : setting.Ordered)
    (hread : Fits s below) (hfits : Fits s setting) :
    Fits s (Json.mergeOver (some below) setting) ↔ AdmitsUnder (Admits s) below setting := by
  cases setting with
  | object options =>
    cases below with
    | object base =>
      rw [Json.mergeOver_object_object]
      exact h hbelow hsetting hread hfits
    | _ =>
      rw [Json.mergeOver_of_base_ne_object (by simp)]
      exact iff_of_true hfits trivial
  | _ =>
    rw [Json.mergeOver_of_ne_object (by simp)]
    refine iff_of_true hfits ?_
    cases below <;> trivial

/-! ### Records -/

theorem Settled.given (h : Settled s) {rule : FieldRule} {lower upper : Fields}
    (hlower : (Json.object lower).Ordered) (hupper : (Json.object upper).Ordered)
    (hread : ∃ value, Given rule s lower value) (hfits : ∃ value, Given rule s upper value) :
    (∃ value, Given rule s (lower.merge upper) value) ↔ AdmitsField (Admits s) lower upper := by
  rcases lower with _ | ⟨⟨key, below⟩, lower⟩
  · rw [Fields.merge_nil_left hupper.sorted]
    exact iff_of_true hfits trivial
  rcases upper with _ | ⟨⟨name, setting⟩, upper⟩
  · rw [Fields.merge_nil]
    exact iff_of_true hread trivial
  obtain ⟨value, hvalue⟩ := hread
  obtain ⟨honly, hbelow⟩ := hvalue.of_get? (Table.get?_cons_self key below lower)
  obtain rfl : lower = [] := (List.cons.inj honly).2
  obtain ⟨value', hvalue'⟩ := hfits
  obtain ⟨honly', hsetting⟩ := hvalue'.of_get? (Table.get?_cons_self name setting upper)
  obtain rfl : upper = [] := (List.cons.inj honly').2
  rw [AdmitsField]
  by_cases hkey : key = name
  · subst hkey
    rw [Fields.merge_singleton, and_iff_right rfl]
    exact h.mergeOver (hlower.of_mem List.mem_cons_self) (hupper.of_mem List.mem_cons_self)
      ⟨value, hbelow⟩ ⟨value', hsetting⟩
  · refine iff_of_false ?_ fun hand => hkey hand.1
    rintro ⟨merged, hmerged⟩
    have hname := Fields.get?_merge_of_some [(key, below)] hupper.sorted
      (Table.get?_cons_self name setting [])
    obtain ⟨_, hlow⟩ := Fields.eq_singleton_of_merge hlower.sorted (List.cons_ne_nil _ _)
      (hmerged.of_get? hname).1
    exact hkey (Prod.mk.inj (List.cons.inj hlow).1).1

theorem exists_givenRow_cons {rule : FieldRule} {rest : List (FieldRule × Shape)}
    {entries : Fields} : (∃ values, GivenRow ((rule, s) :: rest) entries values) ↔
      (∃ value, Given rule s (Table.restrict rule.matches entries) value) ∧
        ∃ values, GivenRow rest (Table.restrict (fun key => !rule.matches key) entries) values := by
  constructor
  · rintro ⟨⟨value, values⟩, hvalue, hvalues⟩
    exact ⟨⟨value, hvalue⟩, values, hvalues⟩
  · rintro ⟨⟨value, hvalue⟩, values, hvalues⟩
    exact ⟨(value, values), hvalue, hvalues⟩

theorem exists_givenRow_merge {fields : List (FieldRule × Shape)}
    (h : ∀ field ∈ fields, Settled field.2) (hbase : (Json.object base).Ordered)
    (hoptions : (Json.object options).Ordered) (hread : ∃ values, GivenRow fields base values)
    (hfits : ∃ values, GivenRow fields options values) :
    (∃ values, GivenRow fields (base.merge options) values) ↔ AdmitsRow fields base options := by
  induction fields generalizing base options with
  | nil => exact iff_of_true ⟨(), trivial⟩ trivial
  | cons field rest ih =>
    obtain ⟨rule, s⟩ := field
    rw [List.forall_mem_cons] at h
    rw [exists_givenRow_cons] at hread hfits
    rw [exists_givenRow_cons, AdmitsRow, Fields.restrict_merge _ hbase.sorted hoptions.sorted,
      Fields.restrict_merge _ hbase.sorted hoptions.sorted,
      h.1.given (hbase.restrict _) (hoptions.restrict _) hread.1 hfits.1,
      ih h.2 (hbase.restrict _) (hoptions.restrict _) hread.2 hfits.2]

theorem exists_givenOthers {others : Others} {entries : Fields} :
    (∃ kept, GivenOthers others entries kept) ↔ (others = .refused → entries = []) := by
  cases others <;> simp [GivenOthers]

theorem fits_record {title : String} {fields : List (FieldRule × Shape)} {others : Others}
    {entries : Fields} : Fits (.record title fields others) (.object entries) ↔
      (∃ values, GivenRow fields entries values) ∧
        (others = .refused → strangers fields entries = []) := by
  rw [← exists_givenOthers]
  constructor
  · rintro ⟨⟨values, kept⟩, hread⟩
    obtain ⟨hvalues, hkept⟩ := decode_record_eq_ok_iff.mp hread
    exact ⟨⟨values, hvalues⟩, kept, hkept⟩
  · rintro ⟨⟨values, hvalues⟩, kept, hkept⟩
    exact ⟨(values, kept), decode_record_eq_ok_iff.mpr ⟨hvalues, hkept⟩⟩

theorem settled_record (title : String) {fields : List (FieldRule × Shape)} (others : Others)
    (h : ∀ field ∈ fields, Settled field.2) : Settled (.record title fields others) := by
  intro base options hbase hoptions hread hfits
  obtain ⟨hreads, hnone⟩ := fits_record.mp hread
  obtain ⟨hvalues, hothers⟩ := fits_record.mp hfits
  rw [fits_record, Admits, exists_givenRow_merge h hbase hoptions hreads hvalues]
  refine and_iff_left fun hrefused => ?_
  rw [strangers_merge fields hbase.sorted hoptions.sorted, hnone hrefused, hothers hrefused,
    Fields.merge_nil]

/-! ### Maps and choices -/

theorem fits_map {key : KeyShape} {entries : Fields} (hsorted : Table.Sorted entries) :
    Fits (.map key s) (.object entries) ↔ ∀ name written, Table.get? name entries = some written →
      (∃ k, key.decode name = .ok k) ∧ Fits s written := by
  rw [Fits, decode_map_object, exists_mapM_eq_ok_iff]
  constructor
  · intro h name written hget
    obtain ⟨⟨k, value⟩, hread⟩ := h _ (Table.mem_of_get? hget)
    obtain ⟨hk, hvalue⟩ := decodeEntry_eq_ok_iff.mp hread
    exact ⟨⟨k, hk⟩, value, hvalue⟩
  · rintro h ⟨name, written⟩ hmem
    obtain ⟨⟨k, hk⟩, value, hvalue⟩ := h name written (Table.get?_of_mem hsorted hmem)
    exact ⟨(k, value), decodeEntry_eq_ok_iff.mpr ⟨hk, hvalue⟩⟩

theorem Settled.map (h : Settled s) (key : KeyShape) : Settled (.map key s) := by
  intro base options hbase hoptions hread hfits
  rw [fits_map hbase.sorted] at hread
  rw [fits_map hoptions.sorted] at hfits
  rw [fits_map (Fields.sorted_merge hbase.sorted options), Admits]
  refine forall_congr' fun name => ?_
  rw [Fields.get?_merge base hoptions.sorted]
  rcases hsetting : Table.get? name options with _ | setting
  · exact iff_of_true (hread name) (by simp)
  obtain ⟨hk, hfits⟩ := hfits name setting hsetting
  rcases hbelow : Table.get? name base with _ | below
  · simp [Json.mergeOver_none, hk, hfits]
  · have hunder := h.mergeOver (hbase.of_get? hbelow) (hoptions.of_get? hsetting)
      (hread name below hbelow).2 hfits
    simp [hunder, hk]

theorem exists_decodeVariant {known : List String} {variants : List (String × Shape)}
    {name : String} {payload : Json} :
    (∃ value, decodeVariant known variants name (some payload) = .ok value) ↔
      ∃ s, Table.get? name variants = some s ∧ variantPayload s (some payload) = .ok payload ∧
        Fits s payload := by
  induction variants with
  | nil => exact iff_of_false (fun h => h.elim fun value _ => value.elim) (by simp)
  | cons variant rest ih =>
    obtain ⟨label, s⟩ := variant
    by_cases hlabel : label = name
    · subst hlabel
      simp only [Table.get?_cons_self, Option.some.injEq, exists_eq_left']
      constructor
      · rintro ⟨held | other, h⟩
        · obtain ⟨-, hpayload, hread⟩ := decodeVariant_inl_iff.mp h
          exact ⟨hpayload, held, hread⟩
        · exact absurd rfl (decodeVariant_inr_iff.mp h).1
      · rintro ⟨hpayload, held, hread⟩
        exact ⟨.inl held, decodeVariant_inl_iff.mpr ⟨rfl, hpayload, hread⟩⟩
    · rw [Table.get?_cons_of_ne hlabel, ← ih]
      constructor
      · rintro ⟨held | other, h⟩
        · exact absurd (decodeVariant_inl_iff.mp h).1 hlabel
        · exact ⟨other, (decodeVariant_inr_iff.mp h).2⟩
      · rintro ⟨other, h⟩
        exact ⟨.inr other, decodeVariant_inr_iff.mpr ⟨hlabel, h⟩⟩

theorem exists_decodeTagged {known : List String} {variants : List (String × Shape)}
    {name : String} {entries : Fields} :
    (∃ value, decodeTagged known variants name (.object entries) = .ok value) ↔
      ∃ s, Table.get? name variants = some s ∧ (s = .unit ∨ Fits s (.object entries)) := by
  induction variants with
  | nil => exact iff_of_false (fun h => h.elim fun value _ => value.elim) (by simp)
  | cons variant rest ih =>
    obtain ⟨label, s⟩ := variant
    by_cases hlabel : label = name
    · subst hlabel
      simp only [Table.get?_cons_self, Option.some.injEq, exists_eq_left']
      constructor
      · rintro ⟨held | other, h⟩
        · exact (decodeTagged_inl_iff.mp h).2.imp_right fun hread => ⟨held, hread⟩
        · exact absurd rfl (decodeTagged_inr_iff.mp h).1
      · rintro (rfl | ⟨held, hread⟩)
        · exact ⟨.inl (), decodeTagged_inl_iff.mpr ⟨rfl, .inl rfl⟩⟩
        · exact ⟨.inl held, decodeTagged_inl_iff.mpr ⟨rfl, .inr hread⟩⟩
    · rw [Table.get?_cons_of_ne hlabel, ← ih]
      constructor
      · rintro ⟨held | other, h⟩
        · exact absurd (decodeTagged_inl_iff.mp h).1 hlabel
        · exact ⟨other, (decodeTagged_inr_iff.mp h).2⟩
      · rintro ⟨other, h⟩
        exact ⟨.inr other, decodeTagged_inr_iff.mpr ⟨hlabel, h⟩⟩

theorem admitsCalled_iff {same : Prop} {variants : List (String × Shape)} {name : String} :
    AdmitsCalled same variants name base options ↔
      ∀ s, Table.get? name variants = some s → (same → Admits s base options) ∧
        (¬same → s = .unit ∨ ∃ value, Joined s base options value) := by
  induction variants with
  | nil => simp [AdmitsCalled]
  | cons variant rest ih =>
    obtain ⟨label, s⟩ := variant
    rw [AdmitsCalled, ih, Table.get?]
    by_cases hlabel : label = name <;> simp [hlabel]

theorem fits_external {variants : List (String × Shape)} {entries : Fields} :
    Fits (.external variants) (.object entries) ↔ ∃ name payload, entries = [(name, payload)] ∧
      ∃ s, Table.get? name variants = some s ∧ variantPayload s (some payload) = .ok payload ∧
        Fits s payload := by
  constructor
  · rintro ⟨value, hread⟩
    obtain ⟨name, payload, hentries, hread⟩ := decode_external_eq_ok_iff.mp hread
    exact ⟨name, payload, hentries, exists_decodeVariant.mp ⟨value, hread⟩⟩
  · rintro ⟨name, payload, rfl, hfits⟩
    exact exists_decodeVariant.mpr hfits

theorem variantPayload_mergeOver (h : variantPayload s (some setting) = .ok setting) :
    variantPayload s (some (Json.mergeOver (some below) setting)) =
      .ok (Json.mergeOver (some below) setting) := by
  cases s with
  | record title fields others =>
    cases setting with
    | object options =>
      obtain ⟨merged, hmerged⟩ := Json.exists_mergeOver_object (some below) options
      rw [hmerged]
      rfl
    | _ => cases h
  | _ => rfl

theorem admitsUnder_called {variants : List (String × Shape)} {name : String}
    (h : Table.get? name variants = some s) :
    AdmitsUnder (AdmitsCalled True variants name) below setting ↔
      AdmitsUnder (Admits s) below setting := by
  unfold AdmitsUnder
  split
  · rw [admitsCalled_iff]
    simp [h]
  · rfl

theorem settled_external {variants : List (String × Shape)}
    (h : ∀ variant ∈ variants, Settled variant.2) : Settled (.external variants) := by
  intro base options hbase hoptions hread hfits
  obtain ⟨key, below, rfl, s', hs', -, hbelow⟩ := fits_external.mp hread
  obtain ⟨name, setting, rfl, s, hs, hpayload, hsetting⟩ := fits_external.mp hfits
  rw [Admits]
  by_cases hkey : key = name
  · subst hkey
    obtain rfl := Option.some.inj (hs.symm.trans hs')
    have hsettled : Settled s := h _ (Table.mem_of_get? hs)
    have hunder := hsettled.mergeOver (hbase.of_mem List.mem_cons_self)
      (hoptions.of_mem List.mem_cons_self) hbelow hsetting
    have hadmits : (∀ other under, Table.get? other [(key, below)] = some under →
        ∃ setting', Table.get? other [(key, setting)] = some setting' ∧
          AdmitsUnder (AdmitsCalled True variants other) under setting') ↔
        AdmitsUnder (AdmitsCalled True variants key) below setting := by
      simp [Table.get?]
    rw [hadmits, admitsUnder_called hs, ← hunder, Fields.merge_singleton, fits_external]
    constructor
    · rintro ⟨_, _, ⟨⟩, s', hs', -, hmerged⟩
      obtain rfl := Option.some.inj (hs.symm.trans hs')
      exact hmerged
    · exact fun hmerged => ⟨key, _, rfl, s, hs, variantPayload_mergeOver hpayload, hmerged⟩
  · refine iff_of_false (fun hmerged => ?_) fun hadmits => ?_
    · obtain ⟨other, payload, hmerged, -⟩ := fits_external.mp hmerged
      obtain ⟨_, hlow⟩ :=
        Fields.eq_singleton_of_merge hbase.sorted (List.cons_ne_nil _ _) hmerged
      exact hkey (Prod.mk.inj (List.cons.inj hlow).1).1
    · obtain ⟨_, hget, -⟩ := hadmits key below (Table.get?_cons_self key below [])
      exact hkey (Table.eq_of_get?_singleton hget)

theorem fits_tagged {title tag : String} {variants : List (String × Shape)} {entries : Fields} :
    Fits (.tagged title tag variants) (.object entries) ↔
      ∃ name, Table.get? tag entries = some (.text name) ∧ ∃ s, Table.get? name variants = some s ∧
        (s = .unit ∨ Fits s (.object (Table.erase tag entries))) := by
  constructor
  · rintro ⟨value, hread⟩
    obtain ⟨name, hget, hread⟩ := decode_tagged_eq_ok_iff.mp hread
    exact ⟨name, hget, exists_decodeTagged.mp ⟨value, hread⟩⟩
  · rintro ⟨name, hget, hfits⟩
    obtain ⟨value, hread⟩ := exists_decodeTagged.mpr hfits
    exact ⟨value, decode_tagged_eq_ok_iff.mpr ⟨name, hget, hread⟩⟩

theorem settled_tagged (title tag : String) {variants : List (String × Shape)}
    (h : ∀ variant ∈ variants, Settled variant.2) : Settled (.tagged title tag variants) := by
  intro base options hbase hoptions hread hfits
  obtain ⟨name', hname', s', hs', hleft⟩ := fits_tagged.mp hread
  obtain ⟨name, hname, s, hs, hfits⟩ := fits_tagged.mp hfits
  have hlower := hbase.restrict (· != tag)
  have hupper := hoptions.restrict (· != tag)
  have hmerged : Table.get? tag (base.merge options) = some (.text name) := by
    rw [get?_merge_eq_text_iff hoptions, hname]
    rfl
  have hcalled : (s = .unit ∨ Fits s (.object (Table.erase tag (base.merge options)))) ↔
      (Table.get? tag base = some (.text name) →
        Admits s (Table.erase tag base) (Table.erase tag options)) ∧
      (¬Table.get? tag base = some (.text name) →
        s = .unit ∨ ∃ value, Joined s (Table.erase tag base) (Table.erase tag options) value) := by
    rw [Fields.erase_merge tag hbase.sorted hoptions.sorted]
    by_cases hsame : Table.get? tag base = some (.text name)
    · obtain rfl : name' = name := Json.text.inj (Option.some.inj (hname'.symm.trans hsame))
      obtain rfl := Option.some.inj (hs.symm.trans hs')
      simp only [hsame, forall_const, not_true, false_implies, and_true]
      by_cases hunit : s = .unit
      · subst hunit
        exact iff_of_true (.inl rfl) trivial
      · rw [or_iff_right hunit]
        exact h _ (Table.mem_of_get? hs) hlower hupper (hleft.resolve_left hunit)
          (hfits.resolve_left hunit)
    · simp only [hsame, false_implies, true_and, not_false_eq_true, forall_const]
      exact or_congr_right (fits_merge_iff s hlower hupper)
  rw [fits_tagged, Admits]
  simp only [hmerged, hname, Option.some.injEq, Json.text.injEq, exists_eq_left', forall_eq',
    admitsCalled_iff, hs, hcalled]

theorem fits_untagged {title : String} {alternatives : List Shape} {written : Json} :
    Fits (.untagged title alternatives) written ↔ ∃ s ∈ alternatives, Fits s written := by
  induction alternatives with
  | nil =>
    refine iff_of_false ?_ (by simp)
    rintro ⟨value, hread⟩
    cases hread
  | cons s rest ih =>
    rw [List.exists_mem_cons_iff, ← ih]
    constructor
    · rintro ⟨one | other, hread⟩
      · exact .inl ⟨one, decodeAlternative_inl_iff.mp hread⟩
      · exact .inr ⟨other, (decodeAlternative_inr_iff.mp hread).2⟩
    · intro hfits
      by_cases hone : Fits s written
      · obtain ⟨one, hone⟩ := hone
        exact ⟨.inl one, decodeAlternative_inl_iff.mpr hone⟩
      · obtain ⟨other, hother⟩ := hfits.resolve_left hone
        refine ⟨.inr other, decodeAlternative_inr_iff.mpr ⟨fun one hread => ?_, hother⟩⟩
        exact hone ⟨one, hread⟩

theorem settled_untagged (title : String) (alternatives : List Shape) :
    Settled (.untagged title alternatives) := by
  intro base options hbase hoptions _ _
  rw [fits_untagged, Admits]
  exact exists_congr fun s => and_congr_right fun _ => fits_merge_iff s hbase hoptions

/-! ### Other shapes -/

theorem fits_option {entries : Fields} :
    Fits (.option s) (.object entries) ↔ Fits s (.object entries) := by
  have hdecode : decode (.option s) (.object entries) = (decode s (.object entries)).map some := rfl
  simp only [Fits, hdecode, map_eq_ok_iff]
  constructor
  · rintro ⟨_, value, hread, -⟩
    exact ⟨value, hread⟩
  · rintro ⟨value, hread⟩
    exact ⟨_, value, hread, rfl⟩

theorem Settled.option (h : Settled s) : Settled (.option s) := by
  intro base options hbase hoptions hread hfits
  rw [fits_option] at hread hfits ⊢
  exact h hbase hoptions hread hfits

end Settled

mutual

/-- Options that can be read on their own are read with an object that can be exactly when it admits
them. -/
theorem settled : (s : Shape) → Settled s
  | .option s => (settled s).option
  | .json => fun _ _ _ _ _ _ => iff_of_true ⟨_, rfl⟩ trivial
  | .map key s => (settled s).map key
  | .record title fields others => settled_record title others (settled_fields fields)
  | .external variants => settled_external (settled_variants variants)
  | .tagged title tag variants => settled_tagged title tag (settled_variants variants)
  | .untagged title alternatives => settled_untagged title alternatives
  | .unit | .bool | .int _ | .single | .double | .char | .text | .list _ | .tuple _ _ =>
    fun _ _ _ _ _ ⟨_, hread⟩ => by cases hread

theorem settled_fields : (fields : List (FieldRule × Shape)) → ∀ field ∈ fields, Settled field.2
  | [] => fun _ hmem => by cases hmem
  | (_, s) :: rest => List.forall_mem_cons.mpr ⟨settled s, settled_fields rest⟩

theorem settled_variants : (variants : List (String × Shape)) →
    ∀ variant ∈ variants, Settled variant.2
  | [] => fun _ hmem => by cases hmem
  | (_, s) :: rest => List.forall_mem_cons.mpr ⟨settled s, settled_variants rest⟩

end

/-! ### Values that are never in the way -/

mutual

/-- Whether the shape has neither choices nor second names of fields where objects are merged. -/
def Steady : Shape → Prop
  | .option s => Steady s
  | .map _ s => Steady s
  | .record _ fields _ => SteadyFields fields
  | .external _ | .tagged _ _ _ | .untagged _ _ => False
  | _ => True

def SteadyFields : List (FieldRule × Shape) → Prop
  | [] => True
  | (rule, s) :: rest => rule.aliases = [] ∧ Steady s ∧ SteadyFields rest

end

theorem admitsUnder_of_forall {admits : Fields → Fields → Prop}
    (h : ∀ base options, admits base options) (below setting : Json) :
    AdmitsUnder admits below setting := by
  unfold AdmitsUnder
  split
  · exact h _ _
  · trivial

theorem admitsField_of_forall {rule : FieldRule} (haliases : rule.aliases = [])
    {admits : Fields → Fields → Prop} (h : ∀ base options, admits base options)
    (base options : Fields) :
    AdmitsField admits (base.restrict rule.matches) (options.restrict rule.matches) := by
  have hname : ∀ {entries : Fields} {entry rest},
      Table.restrict rule.matches entries = entry :: rest → rule.name = entry.1 := by
    intro entries entry rest heq
    have hmem : entry ∈ Table.restrict rule.matches entries := heq ▸ List.mem_cons_self
    have hmatches := (List.mem_filter.mp hmem).2
    rw [matches_eq_decide haliases] at hmatches
    exact of_decide_eq_true hmatches
  unfold AdmitsField
  split
  case h_1 heq heq' =>
    exact ⟨(hname heq).symm.trans (hname heq'), admitsUnder_of_forall h _ _⟩
  case h_2 => trivial

mutual

/-- An object of a steady shape admits all options. -/
theorem admits_of_steady : (s : Shape) → Steady s → ∀ base options, Admits s base options
  | .option s, h => admits_of_steady s h
  | .map _ s, h => fun _ _ _ below setting _ _ =>
    admitsUnder_of_forall (admits_of_steady s h) below setting
  | .record _ fields _, h => admitsRow_of_steady fields h
  | .external _, h | .tagged _ _ _, h | .untagged _ _, h => h.elim
  | .json, _ | .unit, _ | .bool, _ | .int _, _ | .single, _ | .double, _ | .char, _ | .text, _
  | .list _, _ | .tuple _ _, _ => fun _ _ => trivial

theorem admitsRow_of_steady : (fields : List (FieldRule × Shape)) → SteadyFields fields →
    ∀ base options, AdmitsRow fields base options
  | [], _ => fun _ _ => trivial
  | (_, s) :: rest, h => fun base options =>
    ⟨admitsField_of_forall h.1 (admits_of_steady s h.2.1) base options,
      admitsRow_of_steady rest h.2.2 _ _⟩

end

end FilterGateway.Shape
