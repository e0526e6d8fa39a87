import FilterGateway.Proofs.Binding.Reading
import FilterGateway.Shape.Bind

/-!
# Binding as an update of fields

Binding goes by way of JSON: the value is written, the options are laid over it, and the result is
read. For plain records this detour can be left out. Each option is laid over the field that it
names, in the order of the keys: an object over a record field by field, and any other option in the
place of the field. The first option that does not fit is what binding reports.
-/

namespace FilterGateway.Shape

/-- Whether a shape has no parts that an option could name: its values are never written as
objects. -/
def Leaf : Shape → Prop
  | .unit | .bool | .int _ | .single | .double | .char | .text | .list _ | .tuple _ _ => True
  | _ => False

mutual

/-- A shape of records, some of them optional, whose fields are always written, each under its own
name, and that ignore all other keys. -/
def Plain : Shape → Prop
  | .option s => Plain s
  | .record _ fields others => others = .ignored ∧ PlainFields fields
  | s => Leaf s

def PlainFields : List (FieldRule × Shape) → Prop
  | [] => True
  | (rule, s) :: rest =>
    rule.aliases = [] ∧ (∀ value, rule.omits (datum s value) = false) ∧
      rule.name ∉ rest.map (·.1.name) ∧ Plain s ∧ PlainFields rest

end

/-- The value is what its written form is read as. -/
def ReadsBack (s : Shape) (value : s.Value) : Prop :=
  ∃ written, encode s value = .ok written ∧ decode s written = .ok value

mutual

/-- The value with an option laid over it: an object over a record field by field, in the order of
its keys, and any other option in the place of the value. -/
def update : (s : Shape) → s.Value → Json → Except DecodeError s.Value
  | .record _ fields _, (values, kept), .object options => do
    let values ← options.foldlM (fun values (key, setting) => assign fields values key setting)
      values
    pure (values, kept)
  | .option s, some value, .object options => (update s value (.object options)).map some
  | s, _, setting => decode s setting

/-- The fields with an option laid over the one that `key` names. -/
def assign : (fields : List (FieldRule × Shape)) → FieldRow fields → String → Json →
    Except DecodeError (FieldRow fields)
  | [], values, _, _ => .ok values
  | (rule, s) :: rest, (value, values), key, setting =>
    if rule.name = key then (update s value setting).map fun value => (value, values)
    else (assign rest values key setting).map fun values => (value, values)

end

/-! ### The first entry that does not fit -/

/-- What is reported for an entry, if it does not fit the field that it names. -/
def probe : (fields : List (FieldRule × Shape)) → String → Json → Except DecodeError Unit
  | [], _, _ => .ok ()
  | (rule, s) :: rest, key, value =>
    if rule.name = key then (decode s value).map fun _ => () else probe rest key value

/-- Whether the field that `key` names is still to be read. -/
def Vacant : (fields : List (FieldRule × Shape)) → Draft fields → String → Prop
  | [], _, _ => True
  | (rule, _) :: rest, (slot, draft), key => (rule.name = key → slot = none) ∧ Vacant rest draft key

theorem vacant_blank (fields : List (FieldRule × Shape)) (key : String) :
    Vacant fields (blank fields) key := by
  induction fields with
  | nil => trivial
  | cons field rest ih => exact ⟨fun _ => rfl, ih⟩

theorem matches_eq_decide {rule : FieldRule} (h : rule.aliases = []) (key : String) :
    rule.matches key = decide (rule.name = key) := by
  rw [FieldRule.matches, h]
  simp [Bool.beq_eq_decide_eq]

theorem restrict_matches {rule : FieldRule} (h : rule.aliases = []) {entries : Fields}
    (hsorted : Table.Sorted entries) :
    Table.restrict rule.matches entries =
      match Table.get? rule.name entries with
      | some written => [(rule.name, written)]
      | none => [] := by
  have hget : ∀ key, Table.get? key (Table.restrict rule.matches entries) =
      if rule.name = key then Table.get? rule.name entries else none := by
    intro key
    rw [Table.get?_restrict, matches_eq_decide h]
    by_cases hkey : rule.name = key <;> simp [hkey]
  split
  case h_1 written hname =>
    refine Table.Sorted.ext (Table.sorted_restrict _ hsorted) (List.pairwise_singleton _ _) ?_
    intro key
    rw [hget, hname]
    simp [Table.get?]
  case h_2 hname =>
    refine Table.Sorted.ext (Table.sorted_restrict _ hsorted) Table.sorted_nil ?_
    intro key
    rw [hget, hname]
    simp

theorem get?_restrict_not_matches {rule : FieldRule} (h : rule.aliases = []) {key : String}
    (hne : rule.name ≠ key) (entries : Fields) :
    Table.get? key (Table.restrict (fun key => !rule.matches key) entries) =
      Table.get? key entries := by
  rw [Table.get?_restrict, matches_eq_decide h]
  simp [hne]

section Entries

variable {fields : List (FieldRule × Shape)} {known : List String} {draft : Draft fields}
  {kept : Fields} {key : String} {value : Json}

theorem takeEntry_of_vacant (known : List String) (kept : Fields) (value : Json)
    (hplain : PlainFields fields) (hvacant : Vacant fields draft key) :
    (∀ e, probe fields key value = .error e →
      takeEntry fields .ignored known (draft, kept) (key, value) = .error e) ∧
    (probe fields key value = .ok () → ∃ draft',
      takeEntry fields .ignored known (draft, kept) (key, value) = .ok (draft', kept) ∧
        ∀ other, other ≠ key → Vacant fields draft other → Vacant fields draft' other) := by
  induction fields with
  | nil =>
    refine ⟨fun e h => by simp [probe] at h, fun _ => ⟨(), rfl, fun _ _ h => h⟩⟩
  | cons field rest ih =>
    obtain ⟨rule, s⟩ := field
    obtain ⟨slot, draft⟩ := draft
    rw [PlainFields] at hplain
    obtain ⟨haliases, -, -, -, hrest⟩ := hplain
    obtain ⟨hslot, hvacant⟩ := hvacant
    by_cases hname : rule.name = key
    · have hmatches : rule.matches key = true := by simp [matches_eq_decide haliases, hname]
      obtain rfl := hslot hname
      rw [takeEntry_of_matches (key, value) hmatches]
      simp only [probe, hname, if_true, fillSlot]
      rcases decode s value with e | v
      · simp [Except.map]
      · refine ⟨by simp [Except.map], fun _ => ⟨(some v, draft), rfl, ?_⟩⟩
        intro other hne hother
        exact ⟨fun heq => absurd (heq.symm.trans hname) hne, hother.2⟩
    · have hmatches : rule.matches key = false := by simp [matches_eq_decide haliases, hname]
      rw [takeEntry_of_not_matches (key, value) hmatches]
      simp only [probe, hname, if_false]
      obtain ⟨herror, hok⟩ := ih hrest hvacant
      refine ⟨fun e h => by rw [herror e h]; rfl, fun h => ?_⟩
      obtain ⟨draft', htake, hother⟩ := hok h
      refine ⟨(slot, draft'), by rw [htake]; rfl, fun other hne hvac => ?_⟩
      exact ⟨hvac.1, hother other hne hvac.2⟩

theorem foldlM_takeEntry_error (hplain : PlainFields fields) {entries : Fields}
    (hsorted : Table.Sorted entries) (hvacant : ∀ entry ∈ entries, Vacant fields draft entry.1)
    (hmem : (key, value) ∈ entries) {e : DecodeError} (herror : probe fields key value = .error e)
    (hbefore : ∀ entry ∈ entries, entry.1 < key → probe fields entry.1 entry.2 = .ok ()) :
    entries.foldlM (takeEntry fields .ignored known) (draft, kept) = .error e := by
  induction entries generalizing draft with
  | nil => cases hmem
  | cons entry rest ih =>
    obtain ⟨hhead, hrest⟩ := List.pairwise_cons.mp hsorted
    obtain ⟨htaken, hpassed⟩ := takeEntry_of_vacant known kept entry.2 hplain
      (hvacant entry List.mem_cons_self)
    rw [List.foldlM_cons]
    rcases List.mem_cons.mp hmem with rfl | hmem
    · rw [htaken e herror]
      rfl
    · obtain ⟨draft', hstep, hother⟩ :=
        hpassed (hbefore entry List.mem_cons_self (hhead _ hmem))
      rw [hstep]
      refine ih hrest (fun other hmem' => ?_) hmem
        fun other hmem' => hbefore other (List.mem_cons_of_mem _ hmem')
      refine hother other.1 (fun heq => String.lt_irrefl entry.1 ?_)
        (hvacant other (List.mem_cons_of_mem _ hmem'))
      exact heq ▸ hhead other hmem'

theorem decode_record_eq_error (hplain : PlainFields fields) (title : String) {entries : Fields}
    (hsorted : Table.Sorted entries) (hget : Table.get? key entries = some value) {e : DecodeError}
    (herror : probe fields key value = .error e)
    (hbefore : ∀ other written, Table.get? other entries = some written → other < key →
      probe fields other written = .ok ()) :
    decode (.record title fields .ignored) (.object entries) = .error e := by
  have hentries : entries.foldlM (takeEntry fields .ignored (fields.map (·.1.name)))
      (blank fields, []) = .error e := by
    refine foldlM_takeEntry_error hplain hsorted (fun entry _ => vacant_blank fields entry.1)
      (Table.mem_of_get? hget) herror ?_
    intro entry hmem
    exact hbefore entry.1 entry.2 (Table.get?_of_mem hsorted hmem)
  rw [decode_record_object, hentries]
  rfl

end Entries

/-! ### Fields that are all written -/

/-- Each field is written under its name and is read from there, and what `options` have under this
name will update it. -/
def Laid : (fields : List (FieldRule × Shape)) → FieldRow fields → Fields → Fields → Prop
  | [], _, _, _ => True
  | (rule, s) :: rest, (value, values), base, options =>
    (∃ written, Table.get? rule.name base = some written ∧ decode s written = .ok value ∧
      ∀ setting, (rule.name, setting) ∈ options →
        decode s (Json.mergeOver (some written) setting) = update s value setting) ∧
      Laid rest values base options

section Laid

variable {fields : List (FieldRule × Shape)} {values values' : FieldRow fields}
  {base options rest : Fields} {key : String} {setting : Json}

theorem Laid.congr (h : Laid fields values base options) {base' : Fields}
    (hbase : ∀ name ∈ fields.map (·.1.name), Table.get? name base' = Table.get? name base)
    (hrest : ∀ name ∈ fields.map (·.1.name), ∀ setting, (name, setting) ∈ rest →
      (name, setting) ∈ options) : Laid fields values base' rest := by
  induction fields with
  | nil => trivial
  | cons field fields ih =>
    obtain ⟨rule, s⟩ := field
    obtain ⟨value, values⟩ := values
    obtain ⟨⟨written, hget, hread, hupdate⟩, htail⟩ := h
    simp only [List.map_cons, List.forall_mem_cons] at hbase hrest
    refine ⟨⟨written, hbase.1.trans hget, hread, fun setting hmem => ?_⟩, ?_⟩
    · exact hupdate setting (hrest.1 setting hmem)
    · exact ih htail hbase.2 hrest.2

theorem Laid.givenRow (h : Laid fields values base options) (hplain : PlainFields fields)
    (hsorted : Table.Sorted base) : GivenRow fields base values := by
  induction fields generalizing base with
  | nil => trivial
  | cons field fields ih =>
    obtain ⟨rule, s⟩ := field
    obtain ⟨value, values⟩ := values
    rw [PlainFields] at hplain
    obtain ⟨haliases, -, hname, -, hplain⟩ := hplain
    obtain ⟨⟨written, hget, hread, -⟩, htail⟩ := h
    refine ⟨by rw [restrict_matches haliases hsorted, hget]; exact hread,
      ih (htail.congr ?_ fun _ _ _ hmem => hmem) hplain (Table.sorted_restrict _ hsorted)⟩
    intro name hmem
    have hne : rule.name ≠ name := fun heq => hname (heq ▸ hmem)
    exact get?_restrict_not_matches haliases hne base

theorem Laid.probe (h : Laid fields values base options) {written : Json}
    (hget : Table.get? key base = some written) : probe fields key written = .ok () := by
  induction fields with
  | nil => rfl
  | cons field fields ih =>
    obtain ⟨rule, s⟩ := field
    obtain ⟨value, values⟩ := values
    obtain ⟨⟨written', hget', hread, -⟩, htail⟩ := h
    rw [Shape.probe]
    by_cases hname : rule.name = key
    · obtain rfl : written' = written := Option.some.inj ((hname ▸ hget').symm.trans hget)
      simp [hname, hread, Except.map]
    · rw [if_neg hname]
      exact ih htail

theorem Laid.assign_ok (h : Laid fields values base ((key, setting) :: rest))
    (hplain : PlainFields fields) (hfresh : Table.get? key rest = none)
    (hsorted : Table.Sorted rest) (hassign : assign fields values key setting = .ok values') :
    Laid fields values'
      (Table.insert key (Json.mergeOver (Table.get? key base) setting) base) rest := by
  induction fields with
  | nil => trivial
  | cons field fields ih =>
    obtain ⟨rule, s⟩ := field
    obtain ⟨value, values⟩ := values
    rw [PlainFields] at hplain
    obtain ⟨-, -, hname, -, hplain⟩ := hplain
    obtain ⟨⟨written, hget, hread, hupdate⟩, htail⟩ := h
    rw [assign] at hassign
    by_cases hkey : rule.name = key
    · rw [if_pos hkey] at hassign
      obtain ⟨value', hvalue, rfl⟩ := map_eq_ok_iff.mp hassign
      refine ⟨⟨_, by rw [hkey, Table.get?_insert_self], ?_, fun other hmem => ?_⟩, ?_⟩
      · rw [← hkey, hget]
        exact (hupdate setting (hkey ▸ List.mem_cons_self)).trans hvalue
      · have hsome := Table.get?_of_mem hsorted hmem
        rw [hkey, hfresh] at hsome
        cases hsome
      · refine htail.congr (fun name hmem => ?_) fun _ _ _ hmem => List.mem_cons_of_mem _ hmem
        have hne : name ≠ key := fun heq => hname (hkey ▸ heq ▸ hmem)
        exact Table.get?_insert_of_ne hne _ _
    · rw [if_neg hkey] at hassign
      obtain ⟨values', hvalues, rfl⟩ := map_eq_ok_iff.mp hassign
      refine ⟨⟨written, by rw [Table.get?_insert_of_ne hkey, hget], hread, fun other hmem => ?_⟩,
        ih htail hplain hvalues⟩
      exact hupdate other (List.mem_cons_of_mem _ hmem)

theorem Laid.assign_error (h : Laid fields values base ((key, setting) :: rest)) {e : DecodeError}
    (hassign : assign fields values key setting = .error e) :
    Shape.probe fields key (Json.mergeOver (Table.get? key base) setting) = .error e := by
  induction fields with
  | nil => cases hassign
  | cons field fields ih =>
    obtain ⟨rule, s⟩ := field
    obtain ⟨value, values⟩ := values
    obtain ⟨⟨written, hget, -, hupdate⟩, htail⟩ := h
    rw [assign] at hassign
    rw [Shape.probe]
    by_cases hkey : rule.name = key
    · rw [if_pos hkey] at hassign ⊢
      rw [← hkey, hget, hupdate setting (hkey ▸ List.mem_cons_self), map_eq_error_iff.mp hassign]
      rfl
    · rw [if_neg hkey] at hassign ⊢
      exact ih htail (map_eq_error_iff.mp hassign)

end Laid

/-- Reading the record that options are laid over assigns the options to its fields, one after the
other in the order of their keys. -/
theorem decode_merge_of_laid {fields : List (FieldRule × Shape)} (hplain : PlainFields fields)
    (title : String) {values : FieldRow fields} {base options : Fields}
    (hlaid : Laid fields values base options) (hbase : Table.Sorted base)
    (hoptions : Table.Sorted options) :
    decode (.record title fields .ignored) (.object (Fields.merge base options)) =
      (options.foldlM (fun values (key, setting) => assign fields values key setting) values).map
        fun values => (values, ()) := by
  induction options generalizing values base with
  | nil =>
    rw [Fields.merge_nil]
    exact decode_record_eq_ok_iff.mpr ⟨hlaid.givenRow hplain hbase, trivial⟩
  | cons entry rest ih =>
    obtain ⟨key, setting⟩ := entry
    have hrest := (List.pairwise_cons.mp hoptions).2
    have hfresh : Table.get? key rest = none := Table.get?_tail hoptions
    rw [Fields.merge_cons, List.foldlM_cons]
    dsimp only
    rcases hassign : assign fields values key setting with e | values'
    · -- The later options stand under larger keys, so this one is still the first that fails.
      have hlater : ∀ other, other ≤ key → Table.get? other rest = none := by
        intro other hle
        refine Table.get?_eq_none_of_lt fun entry hmem => ?_
        exact Std.lt_of_le_of_lt hle ((List.pairwise_cons.mp hoptions).1 entry hmem)
      refine decode_record_eq_error hplain title
        (Fields.sorted_merge (Table.sorted_insert _ _ hbase) rest) ?_
        (hlaid.assign_error hassign) ?_
      · rw [Fields.get?_merge_of_none _ hrest hfresh, Table.get?_insert_self]
      · intro other written hget hlt
        rw [Fields.get?_merge_of_none _ hrest (hlater other (Std.le_of_lt hlt)),
          Table.get?_insert_of_ne (Std.ne_of_lt hlt)] at hget
        exact hlaid.probe hget
    · exact ih (hlaid.assign_ok hplain hfresh hrest hassign) (Table.sorted_insert _ _ hbase) hrest

/-! ### Written forms -/

theorem encode_record_ignored {title : String} {fields : List (FieldRule × Shape)}
    {values : FieldRow fields} {written : Json}
    (h : encode (.record title fields .ignored) (values, ()) = .ok written) :
    ∃ base, encodeFields fields values = .ok base ∧ written = .object base := by
  have hencode : encode (.record title fields .ignored) (values, ()) =
      encodeFields fields values >>= fun base => .ok (.object base) := rfl
  obtain ⟨base, hbase, heq⟩ := bind_eq_ok_iff.mp (hencode ▸ h)
  exact ⟨base, hbase, (Except.ok.inj heq).symm⟩

theorem encodeFields_cons_of_omits {rule : FieldRule} {s : Shape} {rest : List (FieldRule × Shape)}
    {value : s.Value} (h : rule.omits (datum s value) = true) (values : FieldRow rest) :
    encodeFields ((rule, s) :: rest) (value, values) = encodeFields rest values := by
  rw [encodeFields, if_pos h]

theorem encodeFields_cons_eq_ok {rule : FieldRule} {s : Shape} {rest : List (FieldRule × Shape)}
    {value : s.Value} (hkept : rule.omits (datum s value) = false) {values : FieldRow rest}
    {written : Fields}
    (h : encodeFields ((rule, s) :: rest) (value, values) = .ok written) :
    ∃ one others, encode s value = .ok one ∧ encodeFields rest values = .ok others ∧
      written = Table.insert rule.name one others := by
  rw [encodeFields, if_neg (by simp [hkept])] at h
  obtain ⟨one, hone, h⟩ := bind_eq_ok_iff.mp h
  obtain ⟨others, hothers, h⟩ := bind_eq_ok_iff.mp h
  exact ⟨one, others, hone, hothers, (Except.ok.inj h).symm⟩

theorem sorted_encodeFields {fields : List (FieldRule × Shape)} {values : FieldRow fields}
    {written : Fields} (h : encodeFields fields values = .ok written) : Table.Sorted written := by
  induction fields generalizing written with
  | nil =>
    obtain rfl := Except.ok.inj h
    exact Table.sorted_nil
  | cons field rest ih =>
    obtain ⟨rule, s⟩ := field
    obtain ⟨value, values⟩ := values
    cases homits : rule.omits (datum s value) with
    | true =>
      rw [encodeFields_cons_of_omits homits] at h
      exact ih h
    | false =>
      obtain ⟨one, others, -, hothers, rfl⟩ := encodeFields_cons_eq_ok homits h
      exact Table.sorted_insert _ _ (ih hothers)

theorem encode_ne_object_of_leaf {s : Shape} (h : Leaf s) {value : s.Value} {written : Json}
    (hencode : encode s value = .ok written) (fields : Fields) : written ≠ .object fields := by
  rintro rfl
  cases s with
  | unit | bool | char | text => cases hencode
  | int w =>
    rw [encode, encodeInt] at hencode
    split at hencode <;> cases hencode
  | single | double =>
    rw [encode, encodeFloat] at hencode
    split at hencode <;> cases hencode
  | list s | tuple title items =>
    rw [encode] at hencode
    obtain ⟨items, -, heq⟩ := map_eq_ok_iff.mp hencode
    cases heq
  | _ => exact h.elim

theorem update_of_leaf {s : Shape} (h : Leaf s) (value : s.Value) (setting : Json) :
    update s value setting = decode s setting := by
  cases s with
  | option s | record title fields others => exact h.elim
  | _ => cases setting <;> rfl

mutual

/-- Reading what a setting is laid over updates the value with the setting. -/
theorem decode_mergeOver (s : Shape) (hplain : Plain s) {value : s.Value} {written : Json}
    (hencode : encode s value = .ok written) (hdecode : decode s written = .ok value)
    (setting : Json) (hordered : setting.Ordered) :
    decode s (Json.mergeOver (some written) setting) = update s value setting := by
  cases s with
  | option s =>
    rw [Plain] at hplain
    cases value with
    | none =>
      have hnull : encode (.option s) none = .ok .null := rfl
      obtain rfl := Except.ok.inj (hnull.symm.trans hencode)
      rw [Json.mergeOver_of_base_ne_object (by simp)]
      cases setting <;> rfl
    | some value =>
      -- A value that is read back is not written as `null`.
      have hsome : decode s written = .ok value := by
        have hmap : (decode s written).map some = .ok (some value) := by
          cases written with
          | null => cases hdecode
          | _ => exact hdecode
        obtain ⟨v, hv, heq⟩ := map_eq_ok_iff.mp hmap
        exact Option.some.inj heq ▸ hv
      have hwritten : encode s value = .ok written := hencode
      have ih := decode_mergeOver s hplain hwritten hsome setting hordered
      cases setting with
      | object options =>
        obtain ⟨fields, hfields⟩ := Json.exists_mergeOver_object (some written) options
        rw [hfields] at ih ⊢
        exact congrArg (Except.map some) ih
      | _ =>
        rw [Json.mergeOver_of_ne_object (by simp)]
        rfl
  | record title fields others =>
    rw [Plain] at hplain
    obtain ⟨rfl, hfields⟩ := hplain
    obtain ⟨values, _⟩ := value
    obtain ⟨base, hbase, rfl⟩ := encode_record_ignored hencode
    cases setting with
    | object options =>
      rw [Json.mergeOver_object_object]
      have hsorted := sorted_encodeFields hbase
      have hlaid := laid_of_encodeFields fields hfields hbase hsorted
        (decode_record_eq_ok_iff.mp hdecode).1 (fun _ _ => rfl) hordered
      rw [decode_merge_of_laid hfields title hlaid hsorted hordered.sorted]
      rfl
    | _ =>
      rw [Json.mergeOver_of_ne_object (by simp)]
      rfl
  | _ =>
    have hleaf : Leaf _ := hplain
    have hbase := encode_ne_object_of_leaf hleaf hencode
    rw [Json.mergeOver_of_base_ne_object (fun fields heq => hbase fields (Option.some.inj heq)),
      update_of_leaf hleaf]

theorem laid_of_encodeFields (fields : List (FieldRule × Shape)) (hplain : PlainFields fields)
    {values : FieldRow fields} {written base options : Fields}
    (hencode : encodeFields fields values = .ok written) (hsorted : Table.Sorted base)
    (hgiven : GivenRow fields base values)
    (hbase : ∀ name ∈ fields.map (·.1.name), Table.get? name base = Table.get? name written)
    (hordered : (Json.object options).Ordered) : Laid fields values base options := by
  cases fields with
  | nil => trivial
  | cons field rest =>
    obtain ⟨rule, s⟩ := field
    obtain ⟨value, values⟩ := values
    rw [PlainFields] at hplain
    obtain ⟨haliases, homits, hname, hs, hrest⟩ := hplain
    obtain ⟨one, others, hone, hothers, rfl⟩ := encodeFields_cons_eq_ok (homits value) hencode
    simp only [List.map_cons, List.forall_mem_cons, Table.get?_insert_self] at hbase
    obtain ⟨hget, hbase⟩ := hbase
    obtain ⟨hvalue, hvalues⟩ := hgiven
    have hread : decode s one = .ok value := by
      rw [restrict_matches haliases hsorted, hget] at hvalue
      exact hvalue
    have hothers_get : ∀ name ∈ rest.map (·.1.name), Table.get? name
        (Table.restrict (fun key => !rule.matches key) base) = Table.get? name others := by
      intro name hmem
      have hne : rule.name ≠ name := fun heq => hname (heq ▸ hmem)
      rw [get?_restrict_not_matches haliases hne, hbase name hmem,
        Table.get?_insert_of_ne (Ne.symm hne)]
    have htail := laid_of_encodeFields rest hrest hothers (Table.sorted_restrict _ hsorted) hvalues
      hothers_get hordered
    refine ⟨⟨one, hget, hread, fun setting hmem => ?_⟩, htail.congr ?_ fun _ _ _ hmem => hmem⟩
    · exact decode_mergeOver s hs hone hread setting (hordered.of_mem hmem)
    · intro name hmem
      have hne : rule.name ≠ name := fun heq => hname (heq ▸ hmem)
      exact (get?_restrict_not_matches haliases hne base).symm

end

/-- Binding options onto a plain record updates its fields. A field that the options do not name
keeps its value; a record in a field, optional or not, is updated in the same way when its option is
an object; any other field that is named takes what its option is read as, and a key that names no
field has no part, at any depth. Binding fails exactly when one of the options cannot be read, and
reports the first one in the order of the keys. -/
theorem bind_eq_update {title : String} {fields : List (FieldRule × Shape)}
    (hplain : PlainFields fields) {value : (Shape.record title fields .ignored).Value}
    (hback : ReadsBack (.record title fields .ignored) value) {options : Fields}
    (hordered : (Json.object options).Ordered) :
    bind (.record title fields .ignored) value options =
      (update (.record title fields .ignored) value (.object options)).mapError .unreadable := by
  obtain ⟨written, hencode, hdecode⟩ := hback
  have hrecord : Plain (.record title fields .ignored) := by
    rw [Plain]
    exact ⟨rfl, hplain⟩
  have hupdate := decode_mergeOver _ hrecord hencode hdecode _ hordered
  obtain ⟨base, -, rfl⟩ := encode_record_ignored hencode
  rw [Json.mergeOver_object_object] at hupdate
  rw [bind, hencode, ← hupdate]
  dsimp only [overlay]
  rcases decode (.record title fields .ignored) (.object (base.merge options)) with e | value' <;>
    rfl

/-- A record with a record, an optional record and a list in its fields. -/
abbrev siteFields : List (FieldRule × Shape) :=
  [({ name := "name" }, .text),
    ({ name := "tls" }, .record "struct Tls"
      [({ name := "cert" }, .text), ({ name := "key" }, .text)] .ignored),
    ({ name := "limit" }, .option (.record "struct Limit"
      [({ name := "bytes" }, .int .u32), ({ name := "strict" }, .bool)] .ignored)),
    ({ name := "ports" }, .list (.int .u16))]

abbrev site : (Shape.record "struct Site" siteFields .ignored).Value :=
  (("origin", (("c.pem", "k.pem", ()), ()), some ((⟨512, by decide, by decide⟩, true, ()), ()),
    [⟨80, by decide, by decide⟩], ()), ())

/-- Options for both inner records, one with a key that has no field, and for the list. -/
def siteOptions : Fields :=
  [("limit", .object [("bytes", .int 9)]), ("ports", .list [.int 443, .int 8443]),
    ("tls", .object [("key", .text "new.pem"), ("zone", .null)])]

theorem bind_eq_update_of_site :
    bind (.record "struct Site" siteFields .ignored) site siteOptions =
      .ok (("origin", (("c.pem", "new.pem", ()), ()),
        some ((⟨9, by decide, by decide⟩, true, ()), ()),
        [⟨443, by decide, by decide⟩, ⟨8443, by decide, by decide⟩], ()), ()) := by
  have hplain : PlainFields siteFields := by simp [PlainFields, Plain, Leaf]
  have hback : ReadsBack (.record "struct Site" siteFields .ignored) site := ⟨_, rfl, rfl⟩
  have hordered : (Json.object siteOptions).Ordered := by
    simp only [siteOptions, Json.Ordered, Json.OrderedFields, Json.OrderedItems, Table.Sorted]
    decide
  exact (bind_eq_update hplain hback hordered).trans rfl

/-- Of two options that do not fit, the one with the smaller key is reported. -/
example : update (.record "struct Site" siteFields .ignored) site (.object
      [("limit", .object [("bytes", .text "big")]), ("name", .int 7)]) =
    .error (.invalidType (.text "big") (.int .u32)) := by
  rfl

end FilterGateway.Shape
