import FilterGateway.Catalogue.Kind
import FilterGateway.Proofs.Binding.Joining
import FilterGateway.Proofs.Binding.MapKey
import FilterGateway.Proofs.Binding.Rows

/-!
# What binding leaves as it was

Binding reads the value back from its written form. So a part that the options do not name keeps its
value only as far as the written form has it: a field that is left out, or a double that is written
as `null`, is lost even when no option is bound. What is lost is lost to the options as well: an
object that is bound onto a field that is not written stands alone. Beyond that nothing changes:
once the value is read back, options change only what they name, at any depth and in values of any
shape.
-/

namespace FilterGateway

/-- What stands under the first key that names a field. -/
def FieldRule.get? (rule : FieldRule) (entries : Fields) : Option Json :=
  (Table.restrict rule.matches entries).head?.map (·.2)

/-- Whether two values have the same along all paths that the options spare. -/
def Json.SameOutside (options : Fields) (before after : Json) : Prop :=
  ∀ path, options.Spares path → after.at? path = before.at? path

namespace Shape

/-- How a place was kept, by what is written there and what the options have there. Without an
option it is the same, and where an object is laid over an object the parts are kept. Any other
option stands alone: the place holds what the option is read as, and nothing of what was there. -/
def KeepsUnder (same : Prop) (keeps : Fields → Fields → Prop) (reads : Json → Prop) :
    Option Json → Option Json → Prop
  | _, none => same
  | some (.object base), some (.object options) => keeps base options
  | _, some setting => reads setting

/-- How the entries that belong to no field were kept, by a record that keeps such entries. -/
def KeepsOthers : (others : Others) → Fields → others.Value → others.Value → Prop
  | .kept, options, before, after => Json.SameOutside options (.object before) (.object after)
  | .ignored, _, _, _ | .refused, _, _, _ => True

mutual

/-- Whether what the options do not name is in `after` as it was in `before`, which was read from
`base`. Where another variant or another alternative has come, each of its parts is what `base` and
the options have of it. -/
def Keeps : (s : Shape) → Fields → Fields → s.Value → s.Value → Prop
  | .option s, base, options, before, after =>
    match before, after with
    | some before, some after => Keeps s base options before after
    | _, _ => False
  | .json, _, options, before, after => Json.SameOutside options before after
  | .map key s, base, options, before, after =>
    ∀ k name, key.encode k = .ok name →
      (∀ value, (k, value) ∈ before → ∃ value', (k, value') ∈ after) ∧
        ∀ value', (k, value') ∈ after → KeepsUnder ((k, value') ∈ before)
          (fun lower upper => ∀ value, (k, value) ∈ before → Keeps s lower upper value value')
          (decode s · = .ok value') (base.get? name) (options.get? name)
  | .record _ fields others, base, options, (before, kept), (after, kept') =>
    KeepsRow fields base options before after ∧
      KeepsOthers others (strangers fields options) kept kept'
  | .external variants, base, options, before, after =>
    KeepsVariant variants base options before after
  | .tagged _ tag variants, base, options, before, after =>
    KeepsTagged (options.get? tag = none) variants (base.erase tag) (options.erase tag) before after
  | .untagged _ alternatives, base, options, before, after =>
    KeepsAlternative alternatives base options before after
  | _, _, _, before, after => after = before

def KeepsRow : (fields : List (FieldRule × Shape)) → Fields → Fields → FieldRow fields →
    FieldRow fields → Prop
  | [], _, _, _, _ => True
  | (rule, s) :: rest, base, options, (before, befores), (after, afters) =>
    KeepsUnder (after = before) (Keeps s · · before after) (decode s · = .ok after)
        (rule.get? base) (rule.get? options) ∧
      KeepsRow rest (base.restrict fun key => !rule.matches key)
        (options.restrict fun key => !rule.matches key) befores afters

/-- A variant is named by the only key of its object, so it stays the same. -/
def KeepsVariant : (variants : List (String × Shape)) → Fields → Fields → Variant variants →
    Variant variants → Prop
  | (name, s) :: _, base, options, .inl before, .inl after =>
    KeepsUnder (after = before) (Keeps s · · before after) (decode s · = .ok after)
      (base.get? name) (options.get? name)
  | _ :: rest, base, options, .inr before, .inr after =>
    KeepsVariant rest base options before after
  | _ :: _, _, _, _, _ => False

/-- A variant is called by a tag, which the options may leave alone. -/
def KeepsTagged (alone : Prop) : (variants : List (String × Shape)) → Fields → Fields →
    Variant variants → Variant variants → Prop
  | (_, s) :: _, base, options, .inl before, .inl after =>
    s = .unit ∨ Keeps s base options before after
  | _ :: rest, base, options, .inr before, .inr after =>
    KeepsTagged alone rest base options before after
  | variant :: rest, base, options, _, after =>
    ¬alone ∧ ∃ name, JoinedTagged (variant :: rest) name base options after

def KeepsAlternative : (alternatives : List Shape) → Fields → Fields → Alternative alternatives →
    Alternative alternatives → Prop
  | s :: _, base, options, .inl before, .inl after => Keeps s base options before after
  | _ :: rest, base, options, .inr before, .inr after =>
    KeepsAlternative rest base options before after
  | s :: rest, base, options, _, after => JoinedAlternative (s :: rest) base options after

end

/-- Whether the entries that a record keeps are in order and name none of its fields. -/
def Apart (fields : List (FieldRule × Shape)) : (others : Others) → others.Value → Prop
  | .kept, entries => entries.Sorted ∧ ∀ name ∈ fields.map (·.1.name), entries.get? name = none
  | .ignored, _ | .refused, _ => True

/-- Whether what is read from a merged object keeps what is read from the object below. -/
def Framed (s : Shape) : Prop :=
  ∀ ⦃base options : Fields⦄, (Json.object base).Ordered → (Json.object options).Ordered →
    ∀ ⦃before after : s.Value⦄, decode s (.object base) = .ok before →
      decode s (.object (base.merge options)) = .ok after → Keeps s base options before after

theorem keepsUnder_of_merge {same : Prop} {keeps : Fields → Fields → Prop} (reads : Json → Prop)
    {base options : Fields} (hoptions : options.Sorted) {name : String} {written : Json}
    (hmerged : Table.get? name (base.merge options) = some written) (hread : reads written)
    (hsame : Table.get? name base = some written → same)
    (hkeeps : ∀ lower upper : Fields, Table.get? name base = some (.object lower) →
      Table.get? name options = some (.object upper) → reads (.object (lower.merge upper)) →
        keeps lower upper) :
    KeepsUnder same keeps reads (Table.get? name base) (Table.get? name options) := by
  rw [Fields.get?_merge_eq_layer base hoptions] at hmerged
  rcases hsetting : Table.get? name options with _ | setting
  · rw [hsetting, Json.layer_none] at hmerged
    exact hsame hmerged
  rw [hsetting, Json.layer_some] at hmerged
  obtain rfl := Option.some.inj hmerged
  rcases hbelow : Table.get? name base with _ | below
  · rw [hbelow, Json.mergeOver_none] at hread
    cases setting <;> exact hread
  rw [hbelow] at hread
  cases below with
  | object lower =>
    cases setting with
    | object upper =>
      rw [Json.mergeOver_object_object] at hread
      exact hkeeps lower upper hbelow hsetting hread
    | _ =>
      rw [Json.mergeOver_of_ne_object (by simp)] at hread
      exact hread
  | _ =>
    rw [Json.mergeOver_of_base_ne_object (by simp)] at hread
    cases setting <;> exact hread

section Framed

variable {s : Shape} {base options : Fields} {name : String} {written written' : Json}
  {before after : s.Value}

theorem Framed.keepsUnder (h : Framed s) (hbase : (Json.object base).Ordered)
    (hoptions : (Json.object options).Ordered)
    (hbefore : ∀ below, Table.get? name base = some below → decode s below = .ok before)
    (hmerged : Table.get? name (base.merge options) = some written)
    (hafter : decode s written = .ok after) :
    KeepsUnder (after = before) (Keeps s · · before after) (decode s · = .ok after)
      (Table.get? name base) (Table.get? name options) := by
  refine keepsUnder_of_merge (decode s · = .ok after) hoptions.sorted hmerged hafter
    (fun hsame => ?_) fun lower upper hlower hupper hread => ?_
  · exact Except.ok.inj (hafter.symm.trans (hbefore _ hsame))
  · exact h (hbase.of_get? hlower) (hoptions.of_get? hupper) (hbefore _ hlower) hread

theorem Framed.keepsUnder_entry (h : Framed s) {rule : FieldRule}
    (hbase : (Json.object base).Ordered) (hoptions : (Json.object options).Ordered)
    (hbefore : Given rule s (Table.restrict rule.matches base) before)
    (hafter : Given rule s (Table.restrict rule.matches (base.merge options)) after) :
    KeepsUnder (after = before) (Keeps s · · before after) (decode s · = .ok after)
      (rule.get? base) (rule.get? options) := by
  have hlower := hbase.restrict rule.matches
  have hupper := hoptions.restrict rule.matches
  rw [Fields.restrict_merge _ hbase.sorted hoptions.sorted, given_iff_of_entries] at hafter
  rcases hafter with ⟨hnil, hread⟩ | ⟨key, written, honly, hread⟩
  · obtain ⟨hnil, hnil'⟩ := (Fields.merge_eq_nil_iff hupper.sorted).mp hnil
    rw [hnil] at hbefore
    rw [FieldRule.get?, FieldRule.get?, hnil, hnil']
    exact Except.ok.inj (hread.symm.trans hbefore)
  · obtain ⟨hbelow, habove⟩ := Fields.head?_of_merge_eq_singleton hupper.sorted honly
    rw [FieldRule.get?, FieldRule.get?, hbelow, habove]
    refine h.keepsUnder hlower hupper (fun below hget => (hbefore.of_get? hget).2) ?_ hread
    rw [honly, Table.get?_cons_self]

theorem keepsRow_of_given {fields : List (FieldRule × Shape)}
    (h : ∀ field ∈ fields, Framed field.2) {befores afters : FieldRow fields}
    (hbase : (Json.object base).Ordered) (hoptions : (Json.object options).Ordered)
    (hbefore : GivenRow fields base befores)
    (hafter : GivenRow fields (base.merge options) afters) :
    KeepsRow fields base options befores afters := by
  induction fields generalizing base options with
  | nil => trivial
  | cons field rest ih =>
    obtain ⟨rule, s⟩ := field
    obtain ⟨before, befores⟩ := befores
    obtain ⟨after, afters⟩ := afters
    rw [List.forall_mem_cons] at h
    obtain ⟨hvalue, hvalues⟩ := hafter
    rw [Fields.restrict_merge _ hbase.sorted hoptions.sorted] at hvalues
    exact ⟨h.1.keepsUnder_entry hbase hoptions hbefore.1 hvalue,
      ih h.2 (hbase.restrict _) (hoptions.restrict _) hbefore.2 hvalues⟩

theorem ordered_strangers (fields : List (FieldRule × Shape)) (h : (Json.object base).Ordered) :
    (Json.object (strangers fields base)).Ordered := by
  induction fields generalizing base with
  | nil => exact h
  | cons field rest ih => exact ih (h.restrict _)

theorem keepsOthers_of_given {others : Others} {kept kept' : others.Value}
    (hbase : (Json.object base).Ordered) (hoptions : (Json.object options).Ordered)
    (hbefore : GivenOthers others base kept)
    (hafter : GivenOthers others (base.merge options) kept') :
    KeepsOthers others options kept kept' := by
  cases others with
  | ignored | refused => trivial
  | kept =>
    obtain rfl : Table.ofList base = kept := hbefore
    obtain rfl : Table.ofList (base.merge options) = kept' := hafter
    intro path hpath
    rw [Table.ofList_of_sorted hbase.sorted,
      Table.ofList_of_sorted (Fields.sorted_merge hbase.sorted options)]
    exact Fields.at?_merge_of_spares base hoptions hpath

theorem framed_record (title : String) {fields : List (FieldRule × Shape)} (others : Others)
    (h : ∀ field ∈ fields, Framed field.2) : Framed (.record title fields others) := by
  rintro base options hbase hoptions ⟨befores, kept⟩ ⟨afters, kept'⟩ hbefore hafter
  obtain ⟨hrow, hkept⟩ := decode_record_eq_ok_iff.mp hbefore
  obtain ⟨hrow', hkept'⟩ := decode_record_eq_ok_iff.mp hafter
  rw [strangers_merge fields hbase.sorted hoptions.sorted] at hkept'
  exact ⟨keepsRow_of_given h hbase hoptions hrow hrow',
    keepsOthers_of_given (ordered_strangers fields hbase) (ordered_strangers fields hoptions)
      hkept hkept'⟩

/-! ### Maps and choices -/

theorem Framed.map (h : Framed s) (key : KeyShape) : Framed (.map key s) := by
  intro base options hbase hoptions befores afters hbefore hafter
  rw [decode_map_object] at hbefore hafter
  rw [Keeps]
  intro k name hname
  -- An entry that is read as `k` stands under the name that `k` is written as.
  have hentry : ∀ {fields : Fields} {entries}, fields.Sorted →
      fields.mapM (decodeEntry key s) = .ok entries → ∀ value, (k, value) ∈ entries ↔
        key.decode name = .ok k ∧ ∃ written, Table.get? name fields = some written ∧
          decode s written = .ok value := by
    intro fields entries hsorted hread value
    rw [mem_of_mapM_eq_ok hread]
    constructor
    · rintro ⟨⟨other, written⟩, hmem, hone⟩
      obtain ⟨hk, hvalue⟩ := decodeEntry_eq_ok_iff.mp hone
      obtain rfl := Except.ok.inj ((KeyShape.encode_of_decode key hk).symm.trans hname)
      exact ⟨hk, written, Table.get?_of_mem hsorted hmem, hvalue⟩
    · rintro ⟨hk, written, hget, hvalue⟩
      exact ⟨(name, written), Table.mem_of_get? hget, decodeEntry_eq_ok_iff.mpr ⟨hk, hvalue⟩⟩
  have hlower := hentry hbase.sorted hbefore
  have hmerged := hentry (Fields.sorted_merge hbase.sorted options) hafter
  refine ⟨fun value hmem => ?_, fun value' hmem => ?_⟩
  · obtain ⟨hk, written, hget, -⟩ := (hlower value).mp hmem
    obtain ⟨written', hget'⟩ := Fields.exists_get?_merge hoptions.sorted hget
    obtain ⟨⟨k', value'⟩, hread⟩ := exists_mapM_eq_ok_iff.mp ⟨_, hafter⟩ _ (Table.mem_of_get? hget')
    exact ⟨value', (hmerged value').mpr ⟨hk, written', hget', (decodeEntry_eq_ok_iff.mp hread).2⟩⟩
  · obtain ⟨hk, written, hget, hread⟩ := (hmerged value').mp hmem
    refine keepsUnder_of_merge (decode s · = .ok value') hoptions.sorted hget hread
      (fun hsame => (hlower value').mpr ⟨hk, written, hsame, hread⟩) ?_
    intro lower upper hbelow habove hread value hvalue
    obtain ⟨-, written', hget', hread'⟩ := (hlower value).mp hvalue
    obtain rfl := Option.some.inj (hget'.symm.trans hbelow)
    exact h (hbase.of_get? hbelow) (hoptions.of_get? habove) hread' hread

theorem keepsVariant_of_decode {variants : List (String × Shape)}
    (h : ∀ variant ∈ variants, Framed variant.2) (hbase : (Json.object base).Ordered)
    (hoptions : (Json.object options).Ordered) {known : List String}
    {befores afters : Variant variants} (hwritten : Table.get? name base = some written)
    (hmerged : Table.get? name (base.merge options) = some written')
    (hbefore : decodeVariant known variants name (some written) = .ok befores)
    (hafter : decodeVariant known variants name (some written') = .ok afters) :
    KeepsVariant variants base options befores afters := by
  induction variants with
  | nil => cases hbefore
  | cons variant rest ih =>
    obtain ⟨label, s⟩ := variant
    rw [List.forall_mem_cons] at h
    rcases befores with before | before <;> rcases afters with after | after
    · obtain ⟨rfl, -, hread⟩ := decodeVariant_inl_iff.mp hbefore
      obtain ⟨-, -, hread'⟩ := decodeVariant_inl_iff.mp hafter
      refine h.1.keepsUnder hbase hoptions (fun below hbelow => ?_) hmerged hread'
      obtain rfl := Option.some.inj (hwritten.symm.trans hbelow)
      exact hread
    · exact absurd (decodeVariant_inl_iff.mp hbefore).1 (decodeVariant_inr_iff.mp hafter).1
    · exact absurd (decodeVariant_inl_iff.mp hafter).1 (decodeVariant_inr_iff.mp hbefore).1
    · exact ih h.2 (decodeVariant_inr_iff.mp hbefore).2 (decodeVariant_inr_iff.mp hafter).2

theorem framed_external {variants : List (String × Shape)}
    (h : ∀ variant ∈ variants, Framed variant.2) : Framed (.external variants) := by
  intro base options hbase hoptions before after hbefore hafter
  rw [Keeps]
  obtain ⟨name, payload, hentries, hread⟩ := decode_external_eq_ok_iff.mp hbefore
  obtain ⟨name', payload', hentries', hread'⟩ := decode_external_eq_ok_iff.mp hafter
  have hwritten : Table.get? name base = some payload := by simp [hentries, Table.get?]
  -- The merged object still has the name, and it has no other.
  obtain rfl : name = name' := by
    obtain ⟨merged, hmerged⟩ := Fields.exists_get?_merge hoptions.sorted hwritten
    rw [hentries'] at hmerged
    exact Table.eq_of_get?_singleton hmerged
  have hmerged : Table.get? name (base.merge options) = some payload' := by
    simp [hentries', Table.get?]
  exact keepsVariant_of_decode h hbase hoptions hwritten hmerged hread hread'

theorem keepsTagged_of_decode {variants : List (String × Shape)}
    (h : ∀ variant ∈ variants, Framed variant.2) (hbase : (Json.object base).Ordered)
    (hoptions : (Json.object options).Ordered) {known : List String} {name' : String} {alone : Prop}
    (hname : alone → name' = name) {befores afters : Variant variants}
    (hbefore : decodeTagged known variants name (.object base) = .ok befores)
    (hafter : decodeTagged known variants name' (.object (base.merge options)) = .ok afters) :
    KeepsTagged alone variants base options befores afters := by
  induction variants with
  | nil => cases hbefore
  | cons variant rest ih =>
    obtain ⟨label, s⟩ := variant
    have hjoined := (decodeTagged_merge_iff (joins_variants _) hbase hoptions afters).mp hafter
    rw [List.forall_mem_cons] at h
    rcases befores with before | before <;> rcases afters with after | after
    · obtain ⟨-, hunit | hread⟩ := decodeTagged_inl_iff.mp hbefore
      · exact .inl hunit
      obtain ⟨-, hunit | hread'⟩ := decodeTagged_inl_iff.mp hafter
      · exact .inl hunit
      exact .inr (h.1 hbase hoptions hread hread')
    · refine ⟨fun halone => ?_, name', hjoined⟩
      exact (decodeTagged_inr_iff.mp hafter).1
        ((decodeTagged_inl_iff.mp hbefore).1.trans (hname halone).symm)
    · refine ⟨fun halone => ?_, name', hjoined⟩
      exact (decodeTagged_inr_iff.mp hbefore).1
        ((decodeTagged_inl_iff.mp hafter).1.trans (hname halone))
    · exact ih h.2 (decodeTagged_inr_iff.mp hbefore).2 (decodeTagged_inr_iff.mp hafter).2

theorem framed_tagged (title tag : String) {variants : List (String × Shape)}
    (h : ∀ variant ∈ variants, Framed variant.2) : Framed (.tagged title tag variants) := by
  intro base options hbase hoptions before after hbefore hafter
  rw [Keeps]
  obtain ⟨name, hget, hread⟩ := decode_tagged_eq_ok_iff.mp hbefore
  obtain ⟨name', hget', hread'⟩ := decode_tagged_eq_ok_iff.mp hafter
  rw [Fields.erase_merge tag hbase.sorted hoptions.sorted] at hread'
  refine keepsTagged_of_decode h (hbase.restrict (· != tag)) (hoptions.restrict (· != tag))
    (fun halone => ?_) hread hread'
  rw [Fields.get?_merge_of_none base hoptions.sorted halone, hget] at hget'
  exact (Json.text.inj (Option.some.inj hget')).symm

theorem keepsAlternative_of_decode (title : String) {alternatives : List Shape}
    (h : ∀ s ∈ alternatives, Framed s) (hbase : (Json.object base).Ordered)
    (hoptions : (Json.object options).Ordered) {befores afters : Alternative alternatives}
    (hbefore : decodeAlternative title alternatives (.object base) = .ok befores)
    (hafter : decodeAlternative title alternatives (.object (base.merge options)) = .ok afters) :
    KeepsAlternative alternatives base options befores afters := by
  induction alternatives with
  | nil => cases hbefore
  | cons s rest ih =>
    have hjoined :=
      (decodeAlternative_merge_iff title (joins_alternatives _) hbase hoptions afters).mp hafter
    rw [List.forall_mem_cons] at h
    rcases befores with before | before <;> rcases afters with after | after
    · exact h.1 hbase hoptions (decodeAlternative_inl_iff.mp hbefore)
        (decodeAlternative_inl_iff.mp hafter)
    · exact hjoined
    · exact hjoined
    · exact ih h.2 (decodeAlternative_inr_iff.mp hbefore).2 (decodeAlternative_inr_iff.mp hafter).2

/-! ### Other shapes -/

theorem Framed.option (h : Framed s) : Framed (.option s) := by
  intro base options hbase hoptions before after hbefore hafter
  have hbefore : (decode s (.object base)).map some = .ok before := hbefore
  have hafter : (decode s (.object (base.merge options))).map some = .ok after := hafter
  obtain ⟨value, hread, rfl⟩ := map_eq_ok_iff.mp hbefore
  obtain ⟨value', hread', rfl⟩ := map_eq_ok_iff.mp hafter
  exact h hbase hoptions hread hread'

theorem framed_json : Framed .json := by
  intro base options _ hoptions before after hbefore hafter
  obtain rfl := Except.ok.inj hbefore
  obtain rfl := Except.ok.inj hafter
  intro path hpath
  exact Fields.at?_merge_of_spares base hoptions hpath

end Framed

mutual

/-- What is read from a merged object keeps what is read from the object below. -/
theorem framed : (s : Shape) → Framed s
  | .option s => (framed s).option
  | .json => framed_json
  | .map key s => (framed s).map key
  | .record title fields others => framed_record title others (framed_fields fields)
  | .external variants => framed_external (framed_variants variants)
  | .tagged title tag variants => framed_tagged title tag (framed_variants variants)
  | .untagged title alternatives => fun _ _ hbase hoptions _ _ hbefore hafter =>
    keepsAlternative_of_decode title (framed_alternatives alternatives) hbase hoptions hbefore
      hafter
  | .unit | .bool | .int _ | .single | .double | .char | .text | .list _ | .tuple _ _ =>
    fun _ _ _ _ _ _ hbefore => by cases hbefore

theorem framed_fields : (fields : List (FieldRule × Shape)) → ∀ field ∈ fields, Framed field.2
  | [] => fun _ hmem => by cases hmem
  | (_, s) :: rest => List.forall_mem_cons.mpr ⟨framed s, framed_fields rest⟩

theorem framed_variants : (variants : List (String × Shape)) →
    ∀ variant ∈ variants, Framed variant.2
  | [] => fun _ hmem => by cases hmem
  | (_, s) :: rest => List.forall_mem_cons.mpr ⟨framed s, framed_variants rest⟩

theorem framed_alternatives : (alternatives : List Shape) → ∀ s ∈ alternatives, Framed s
  | [] => fun _ hmem => by cases hmem
  | s :: rest => List.forall_mem_cons.mpr ⟨framed s, framed_alternatives rest⟩

end

/-! ### Binding nothing -/

theorem overlay_of_ne_object {written : Json} (h : ∀ base, written ≠ .object base)
    (options : Fields) : overlay written options = written := by
  cases written with
  | object base => exact absurd rfl (h base)
  | _ => rfl

theorem bind_eq_ok_iff_decode {s : Shape} {value after : s.Value} {options : Fields} :
    bind s value options = .ok after ↔
      ∃ written, encode s value = .ok written ∧ decode s (overlay written options) = .ok after := by
  rw [bind]
  rcases encode s value with e | written
  · simp
  · rcases hdecode : decode s (overlay written options) with e | read <;> simp [hdecode]

section Rows

variable {fields : List (FieldRule × Shape)} {values : FieldRow fields}

end Rows

section Records

variable {title : String} {fields : List (FieldRule × Shape)} {others : Others}
  {values : FieldRow fields} {kept : others.Value} {base merged : Fields}

theorem Apart.keptFields (h : Apart fields others kept) :
    (keptFields others kept).Sorted ∧
      ∀ name ∈ fields.map (·.1.name), (keptFields others kept).get? name = none := by
  cases others with
  | kept => exact h
  | ignored | refused => exact ⟨Table.sorted_nil, fun _ _ => rfl⟩

end Records

end Shape

end FilterGateway
