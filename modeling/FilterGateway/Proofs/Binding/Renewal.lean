import FilterGateway.Proofs.Binding.Joining
import FilterGateway.Proofs.Binding.MapKey
import FilterGateway.Proofs.Binding.Rows

/-!
# Reading values again under the same options

A value that was read from something with options over it is read again when the same options are
laid over its own written form. Keys that name no field are gone by then, fields that were missing
have their fallbacks, and fields may be left out that were not before. Only the last makes a
difference: the options find nothing to be laid over, and have to make up such a field alone.
-/

namespace FilterGateway.Shape

/-- Whether a field that is left out once it was written and read had been left out before, as it is
when reading undoes writing on its values. -/
def OmitsAlike (rule : FieldRule) (s : Shape) : Prop :=
  ∀ old value written, rule.omits (datum s value) = true → encode s old = .ok written →
    decode s written = .ok value → rule.omits (datum s old) = true

/-- Whether a field is left out only for values that are written without entries, such as `null`, a
text, a list, or an object that is empty. -/
def OmitsBare (rule : FieldRule) (s : Shape) : Prop :=
  ∀ value base, rule.omits (datum s value) = true → encode s value = .ok (.object base) → base = []

mutual

/-- A shape of records, optional values, lists, maps and free JSON in which reading undoes writing
on whatever is written: each value without parts is read back, and so is what a missing field
becomes. A field may be left out for any of its values; nothing else is asked of a field that is
never written. -/
def Restoring : Shape → Prop
  | .json => True
  | .option s => Restoring s
  | .list s => Restoring s
  | .map _ s => Restoring s
  | .record _ fields others => others ≠ .kept ∧ Named fields ∧ RestoringFields fields
  | s => Leaf s ∧ ∀ value : s.Value, ReadsBack s value

def RestoringFields : List (FieldRule × Shape) → Prop
  | [] => True
  | (rule, s) :: rest =>
    ((∀ value, rule.omits (datum s value) = true) ∨
      Restoring s ∧ OmitsAlike rule s ∧ ∀ value, standIn rule s = .ok value → ReadsBack s value) ∧
      RestoringFields rest

end

mutual

/-- Whether each field, wherever options may be laid over it, is left out always or only without
entries. -/
def Bare : Shape → Prop
  | .option s => Bare s
  | .map _ s => Bare s
  | .record _ fields _ => BareFields fields
  | _ => True

def BareFields : List (FieldRule × Shape) → Prop
  | [] => True
  | (rule, s) :: rest =>
    ((∀ value, rule.omits (datum s value) = true) ∨ OmitsBare rule s ∧ Bare s) ∧ BareFields rest

end

/-- Whether something holds of the options, where they are an object. -/
def OfObject (holds : Fields → Prop) : Option Json → Prop
  | some (.object options) => holds options
  | _ => True

mutual

/-- Whether the options make up alone each field of the value that is left out and that they have an
object for. -/
def MadeUp : (s : Shape) → s.Value → Fields → Prop
  | .option s, value, options => ∀ one ∈ value, MadeUp s one options
  | .map key s, entries, options => ∀ entry ∈ entries, ∀ name, key.encode entry.1 = .ok name →
    OfObject (MadeUp s entry.2) (options.get? name)
  | .record _ fields _, (values, _), options => MadeUpRow fields values options
  | _, _, _ => True

def MadeUpRow : (fields : List (FieldRule × Shape)) → FieldRow fields → Fields → Prop
  | [], _, _ => True
  | (rule, s) :: rest, (value, values), options =>
    OfObject (fun setting => if rule.omits (datum s value) then
        decode s (.object setting) = .ok value else MadeUp s value setting)
      (options.get? rule.name) ∧ MadeUpRow rest values options

end

/-- What may stand below options: the written form of some value, or nothing. -/
def Below (s : Shape) (lower : Option Json) : Prop :=
  ∀ written ∈ lower, written.Ordered ∧ ∃ value, encode s value = .ok written

/-- Whether a value is read from something with options over it. -/
def ReadsOver (s : Shape) (written : Json) (upper : Option Json) (value : s.Value) : Prop :=
  ∃ again, Json.layer (some written) upper = some again ∧ decode s again = .ok value

/-- What becomes of a value that was read with options over something: it can be written, and it is
read again when the options are laid over its own written form, exactly when they make up what is
left out. -/
structure Renewed (s : Shape) (upper : Option Json) (value : s.Value) (written : Json) : Prop where
  encode_eq : encode s value = .ok written
  reads_iff : ReadsOver s written upper value ↔ OfObject (MadeUp s value) upper
  madeUp : Bare s → OfObject (MadeUp s value) upper

/-- Whether each value that was read with options over something is renewed. -/
def Repeats (s : Shape) : Prop :=
  ∀ ⦃lower upper : Option Json⦄, Below s lower → (∀ setting ∈ upper, setting.Ordered) →
    ∀ ⦃merged : Json⦄ ⦃value : s.Value⦄, Json.layer lower upper = some merged →
      decode s merged = .ok value → ∃ written, Renewed s upper value written

/-- The entries of an object with one more entry of a map. -/
def putEntry (key : KeyShape) (s : Shape) (fields : Fields) (entry : key.Value × s.Value) :
    Except EncodeError Fields := do
  let name ← key.encode entry.1
  let written ← encode s entry.2
  pure (Table.insert name written fields)

theorem ofObject_of_forall {holds : Fields → Prop} (h : ∀ options, holds options)
    (upper : Option Json) : OfObject holds upper := by
  unfold OfObject
  split
  · exact h _
  · trivial

theorem ofObject_congr {holds holds' : Fields → Prop}
    (h : ∀ options, holds options ↔ holds' options) (upper : Option Json) : OfObject holds upper ↔ OfObject holds' upper := by
  unfold OfObject
  split
  · exact h _
  · rfl

theorem Renewed.of_reads {s : Shape} {upper : Option Json} {value : s.Value} {written : Json}
    (hwritten : encode s value = .ok written) (hreads : ReadsOver s written upper value)
    (h : OfObject (MadeUp s value) upper) : Renewed s upper value written :=
  ⟨hwritten, iff_of_true hreads h, fun _ => h⟩

theorem below_none (s : Shape) : Below s none := by
  intro written h
  cases h

/-! ### Values without parts -/

section Leaf

variable {s : Shape}

theorem madeUp_of_leaf (hleaf : Leaf s) (value : s.Value) (options : Fields) :
    MadeUp s value options := by
  cases s with
  | unit | bool | int | single | double | char | text | list | tuple => trivial
  | _ => exact hleaf.elim

theorem repeats_of_leaf (hleaf : Leaf s) (hback : ∀ value, ReadsBack s value) : Repeats s := by
  intro lower upper hlower _ merged value hmerged hread
  obtain ⟨written, hwritten, hagain⟩ := hback value
  refine ⟨written, .of_reads hwritten ?_ (ofObject_of_forall (madeUp_of_leaf hleaf value) upper)⟩
  rcases upper with _ | setting
  · exact ⟨written, rfl, hagain⟩
  · have hscalar : ∀ fields, lower ≠ some (.object fields) := by
      rintro fields rfl
      obtain ⟨-, below, hbelow⟩ := hlower _ rfl
      exact encode_ne_object_of_leaf hleaf hbelow fields rfl
    have hscalar' : ∀ fields, some written ≠ some (.object fields) := by
      intro fields heq
      exact encode_ne_object_of_leaf hleaf hwritten fields (Option.some.inj heq)
    rw [Json.layer_some, Json.mergeOver_of_base_ne_object hscalar] at hmerged
    obtain rfl := Option.some.inj hmerged
    exact ⟨setting, by rw [Json.layer_some, Json.mergeOver_of_base_ne_object hscalar'], hread⟩

theorem restoring_bool : Restoring .bool :=
  ⟨trivial, fun b => ⟨.bool b, rfl, rfl⟩⟩

theorem restoring_text : Restoring .text :=
  ⟨trivial, fun text => ⟨.text text, rfl, rfl⟩⟩

theorem restoring_int {w : IntWidth} (hlow : IntWidth.i64.low ≤ w.low)
    (hhigh : w.high ≤ IntWidth.u64.high) : Restoring (.int w) := by
  refine ⟨trivial, fun n => ⟨.int n.val, ?_, ?_⟩⟩
  · rw [encode, encodeInt, if_pos ⟨Int.le_trans hlow n.low_le, Int.le_trans n.le_high hhigh⟩]
  · simp only [decode, decodeInt, Ranged.ofInt?_val]

theorem repeats_json : Repeats .json := by
  intro lower upper hlower hupper merged value hmerged hread
  obtain rfl : merged = value := Except.ok.inj hread
  refine ⟨merged, .of_reads rfl ?_ (ofObject_of_forall (fun _ => trivial) upper)⟩
  rcases upper with _ | setting
  · exact ⟨merged, rfl, rfl⟩
  · obtain rfl := Option.some.inj hmerged
    refine ⟨_, ?_, rfl⟩
    rw [Json.layer_some, Json.mergeOver_mergeOver setting (hupper _ rfl)
      fun written hwritten => (hlower written hwritten).1]

end Leaf

/-! ### Written forms -/

theorem encode_map_eq_ok {key : KeyShape} {s : Shape} {entries : List (key.Value × s.Value)}
    {written : Json} (h : encode (.map key s) entries = .ok written) :
    ∃ fields, entries.foldlM (putEntry key s) [] = .ok fields ∧ written = .object fields := by
  obtain ⟨fields, hfields, h⟩ := bind_eq_ok_iff.mp h
  exact ⟨fields, hfields, (Except.ok.inj h).symm⟩

theorem encode_record_eq_ok_iff {title : String} {fields : List (FieldRule × Shape)}
    {others : Others} (hothers : others ≠ .kept) {values : FieldRow fields} {kept : others.Value}
    {written : Json} :
    encode (.record title fields others) (values, kept) = .ok written ↔
      ∃ base, encodeFields fields values = .ok base ∧ written = .object base := by
  have hencode : encode (.record title fields others) (values, kept) =
      encodeFields fields values >>= fun base => .ok (.object base) := by
    cases others with
    | kept => exact absurd rfl hothers
    | ignored | refused => rfl
  rw [hencode, bind_eq_ok_iff]
  simp [eq_comm]

theorem decode_option_eq_ok_iff {s : Shape} {written : Json} {value : Option s.Value} :
    decode (.option s) written = .ok value ↔
      (written = .null ∧ value = none) ∨
        (written ≠ .null ∧ ∃ one, decode s written = .ok one ∧ value = some one) := by
  cases written with
  | null =>
    have hnull : decode (.option s) .null = .ok none := rfl
    simp [hnull, eq_comm]
  | _ =>
    rw [decode, map_eq_ok_iff]
    · simp [eq_comm]
    · simp

theorem eq_null_of_encode_of_leaf {s : Shape} (hleaf : Leaf s) {read : Json} {value : s.Value}
    (hback : ReadsBack s value) (hread : decode s read = .ok value)
    (hwritten : encode s value = .ok .null) : read = .null := by
  obtain ⟨written, hwritten', hagain⟩ := hback
  obtain rfl := Except.ok.inj (hwritten'.symm.trans hwritten)
  cases s with
  | unit =>
    cases read with
    | null => rfl
    | _ => cases hread
  | bool | int w | single | double | char | text | list s | tuple title items => cases hagain
  | _ => exact hleaf.elim

theorem eq_null_of_encode (s : Shape) (h : Restoring s) {read : Json} {value : s.Value}
    (hread : decode s read = .ok value) (hwritten : encode s value = .ok .null) : read = .null := by
  cases s with
  | option s =>
    rw [Restoring] at h
    rcases decode_option_eq_ok_iff.mp hread with ⟨rfl, -⟩ | ⟨-, one, hone, rfl⟩
    · rfl
    · exact eq_null_of_encode s h hone hwritten
  | json =>
    obtain rfl := Except.ok.inj hread
    exact Except.ok.inj hwritten
  | list s =>
    obtain ⟨items, -, heq⟩ := map_eq_ok_iff.mp hwritten
    cases heq
  | map key s =>
    obtain ⟨fields, -, heq⟩ := encode_map_eq_ok hwritten
    cases heq
  | record title fields others =>
    rw [Restoring] at h
    obtain ⟨base, -, heq⟩ := (encode_record_eq_ok_iff h.1).mp hwritten
    cases heq
  | _ => exact eq_null_of_encode_of_leaf h.1 (h.2 value) hread hwritten

/-! ### Optional values and lists -/

section Repeats

variable {s : Shape} {written : Json} {value : s.Value}

theorem Repeats.readsBack (h : Repeats s) (hordered : written.Ordered) {old : s.Value}
    (hold : encode s old = .ok written) (hread : decode s written = .ok value) :
    ReadsBack s value := by
  have hbelow : Below s (some written) := by
    rintro _ ⟨⟩
    exact ⟨hordered, old, hold⟩
  have hnone : ∀ setting ∈ (none : Option Json), setting.Ordered := by simp
  obtain ⟨written', hrenewed⟩ := h hbelow hnone rfl hread
  obtain ⟨again, hover, hagain⟩ := hrenewed.reads_iff.mpr trivial
  obtain rfl := Option.some.inj hover
  exact ⟨written', hrenewed.encode_eq, hagain⟩

theorem Repeats.writable (h : Repeats s) (hordered : written.Ordered)
    (hread : decode s written = .ok value) : ∃ written', encode s value = .ok written' := by
  have hsetting : ∀ setting ∈ some written, setting.Ordered := by
    rintro _ ⟨⟩
    exact hordered
  have hover : Json.layer none (some written) = some written :=
    congrArg some (Json.mergeOver_none written)
  obtain ⟨written', hrenewed⟩ := h (below_none s) hsetting hover hread
  exact ⟨written', hrenewed.encode_eq⟩

end Repeats

theorem Repeats.option {s : Shape} (h : Restoring s) (ih : Repeats s) : Repeats (.option s) := by
  intro lower upper hlower hupper merged value hmerged hread
  rcases decode_option_eq_ok_iff.mp hread with ⟨rfl, rfl⟩ | ⟨hvalue, one, hone, rfl⟩
  · refine ⟨.null, .of_reads rfl ?_ (ofObject_of_forall (fun _ => by simp [MadeUp]) upper)⟩
    refine ⟨.null, ?_, rfl⟩
    rcases Json.layer_eq_of_ne_object (by simp) hmerged with ⟨rfl, -⟩ | rfl
    · rfl
    · exact congrArg some (Json.mergeOver_of_ne_object (by simp) _)
  -- A value that is missing below is as good as nothing there.
  obtain ⟨lower', hlower', hmerged'⟩ :
      ∃ lower', Below s lower' ∧ Json.layer lower' upper = some merged := by
    by_cases hnull : lower = some .null
    · refine ⟨none, below_none s, ?_⟩
      rcases upper with _ | setting
      · exact absurd (Option.some.inj (hmerged.symm.trans hnull)) hvalue
      · rw [hnull, Json.layer_some, Json.mergeOver_of_base_ne_object (by simp)] at hmerged
        rw [Json.layer_some, Json.mergeOver_none, hmerged]
    · refine ⟨lower, ?_, hmerged⟩
      intro written hwritten
      obtain ⟨hordered, below, hbelow⟩ := hlower written hwritten
      refine ⟨hordered, ?_⟩
      cases below with
      | none =>
        obtain rfl := Except.ok.inj hbelow
        exact absurd hwritten hnull
      | some below => exact ⟨below, hbelow⟩
  obtain ⟨written, hrenewed⟩ := ih hlower' hupper hmerged' hone
  have hsome : ∀ again, Json.layer (some written) upper = some again → again ≠ .null := by
    rintro _ hover rfl
    rcases Json.layer_eq_of_ne_object (by simp) hover with ⟨-, hnull⟩ | rfl
    · obtain rfl := Option.some.inj hnull
      exact hvalue (eq_null_of_encode s h hone hrenewed.encode_eq)
    · rw [Json.layer_some, Json.mergeOver_of_ne_object (by simp)] at hmerged
      exact hvalue (Option.some.inj hmerged).symm
  have hreads : ReadsOver (.option s) written upper (some one) ↔ ReadsOver s written upper one := by
    refine exists_congr fun again => and_congr_right fun hover => ?_
    rw [decode_option_eq_ok_iff]
    simp [hsome again hover]
  have hmadeUp : OfObject (MadeUp (.option s) (some one)) upper ↔ OfObject (MadeUp s one) upper :=
    ofObject_congr (fun options => by simp [MadeUp]) upper
  exact ⟨written, hrenewed.encode_eq, hreads.trans (hrenewed.reads_iff.trans hmadeUp.symm),
    fun hbare => hmadeUp.mpr (hrenewed.madeUp hbare)⟩

theorem exists_mapM_encode {s : Shape} {values : List s.Value}
    (h : ∀ value ∈ values, ReadsBack s value) : ReadsBack (.list s) values := by
  induction values with
  | nil => exact ⟨.list [], rfl, rfl⟩
  | cons value rest ih =>
    obtain ⟨⟨one, hone, hback⟩, hrest⟩ := List.forall_mem_cons.mp h
    obtain ⟨written, hwritten, hbacks⟩ := ih hrest
    obtain ⟨others, hothers, rfl⟩ := map_eq_ok_iff.mp hwritten
    have hbacks : others.mapM (decode s) = .ok rest := hbacks
    refine ⟨.list (one :: others), map_eq_ok_iff.mpr ⟨one :: others, ?_, rfl⟩, ?_⟩
    · rw [List.mapM_cons]
      exact bind_eq_ok_iff.mpr ⟨one, hone, bind_eq_ok_iff.mpr ⟨others, hothers, rfl⟩⟩
    · rw [decode, List.mapM_cons]
      exact bind_eq_ok_iff.mpr ⟨value, hback, bind_eq_ok_iff.mpr ⟨rest, hbacks, rfl⟩⟩

theorem Repeats.list {s : Shape} (ih : Repeats s) : Repeats (.list s) := by
  intro lower upper hlower hupper merged values hmerged hread
  have hmadeUp := ofObject_of_forall (madeUp_of_leaf (s := .list s) trivial values) upper
  cases merged with
  | list items =>
    have hread' : items.mapM (decode s) = .ok values := hread
    rcases Json.layer_eq_of_ne_object (by simp) hmerged with ⟨rfl, rfl⟩ | rfl
    · -- Each item was written, and is read again from what it is written as now.
      obtain ⟨hordered, below, hbelow⟩ := hlower _ rfl
      rw [Json.Ordered, Json.orderedItems_iff] at hordered
      obtain ⟨items', hitems, heq⟩ := map_eq_ok_iff.mp hbelow
      obtain rfl := Json.list.inj heq
      obtain ⟨written, hwritten, hagain⟩ : ReadsBack (.list s) values := by
        refine exists_mapM_encode fun value hvalue => ?_
        obtain ⟨item, hitem, hone⟩ := (mem_of_mapM_eq_ok hread').mp hvalue
        obtain ⟨old, -, hold⟩ := (mem_of_mapM_eq_ok hitems).mp hitem
        exact ih.readsBack (hordered item hitem) hold hone
      exact ⟨written, .of_reads hwritten ⟨written, rfl, hagain⟩ hmadeUp⟩
    · -- The option takes the place of the whole list.
      have hordered := hupper _ rfl
      rw [Json.Ordered, Json.orderedItems_iff] at hordered
      obtain ⟨written, hwritten⟩ : ∃ written, values.mapM (encode s) = .ok written := by
        refine exists_mapM_eq_ok_iff.mpr fun value hvalue => ?_
        obtain ⟨item, hitem, hone⟩ := (mem_of_mapM_eq_ok hread').mp hvalue
        exact ih.writable (hordered item hitem) hone
      refine ⟨.list written, .of_reads (map_eq_ok_iff.mpr ⟨written, hwritten, rfl⟩) ?_ hmadeUp⟩
      exact ⟨.list items, by rw [Json.layer_some, Json.mergeOver_of_ne_object (by simp)], hread⟩
  | _ => cases hread

/-! ### Maps -/

section Maps

variable {key : KeyShape} {s : Shape}

theorem putEntry_eq_ok_iff {fields fields' : Fields} {k : key.Value} {value : s.Value} :
    putEntry key s fields (k, value) = .ok fields' ↔
      ∃ name written, key.encode k = .ok name ∧ encode s value = .ok written ∧
        fields' = Table.insert name written fields := by
  rw [putEntry]
  simp only [bind_eq_ok_iff, pure, Except.pure, Except.ok.injEq]
  constructor
  · rintro ⟨name, hname, written, hwritten, rfl⟩
    exact ⟨name, written, hname, hwritten, rfl⟩
  · rintro ⟨name, written, hname, hwritten, rfl⟩
    exact ⟨name, hname, written, hwritten, rfl⟩

theorem exists_of_mem_putEntries {entries : List (key.Value × s.Value)} {start fields : Fields}
    (hstart : ∀ entry ∈ start, ∃ value, encode s value = .ok entry.2)
    (h : entries.foldlM (putEntry key s) start = .ok fields) :
    ∀ entry ∈ fields, ∃ value, encode s value = .ok entry.2 := by
  induction entries generalizing start with
  | nil =>
    obtain rfl := Except.ok.inj h
    exact hstart
  | cons entry rest ih =>
    obtain ⟨next, hstep, hrest⟩ := foldlM_cons_eq_ok_iff.mp h
    obtain ⟨name, written, -, hwritten, rfl⟩ := putEntry_eq_ok_iff.mp hstep
    refine ih (fun other hother => ?_) hrest
    rcases Table.mem_insert hother with rfl | hmem
    · exact ⟨entry.2, hwritten⟩
    · exact hstart other hmem

theorem exists_putEntries {fields start : Fields} {entries : List (key.Value × s.Value)}
    {renewed : String × Json → Json → Prop} (hsorted : fields.Sorted)
    (hstart : ∀ entry ∈ start, ∀ entry' ∈ fields, entry.1 < entry'.1)
    (hread : fields.mapM (decodeEntry key s) = .ok entries)
    (hrenewed : ∀ entry ∈ fields, ∀ value, decode s entry.2 = .ok value →
      ∃ written, encode s value = .ok written ∧ renewed entry written) :
    ∃ base : Fields, entries.foldlM (putEntry key s) start = .ok (start ++ base) ∧
      List.Forall₂ (fun entry entry' => entry'.1 = entry.1 ∧ renewed entry entry'.2)
        fields base := by
  induction fields generalizing start entries with
  | nil =>
    obtain rfl := Except.ok.inj hread
    exact ⟨[], by rw [List.append_nil]; rfl, .nil⟩
  | cons entry rest ih =>
    obtain ⟨hhead, htail⟩ := List.pairwise_cons.mp hsorted
    obtain ⟨hone, hothers⟩ := List.forall_mem_cons.mp hrenewed
    rw [List.mapM_cons] at hread
    obtain ⟨⟨k, value⟩, hentry, hread⟩ := bind_eq_ok_iff.mp hread
    obtain ⟨others, hrest, heq⟩ := bind_eq_ok_iff.mp hread
    obtain rfl := Except.ok.inj heq
    obtain ⟨hk, hvalue⟩ := decodeEntry_eq_ok_iff.mp hentry
    obtain ⟨written, hwritten, hkept⟩ := hone value hvalue
    have hnext : putEntry key s start (k, value) = .ok (start ++ [(entry.1, written)]) := by
      refine putEntry_eq_ok_iff.mpr ⟨entry.1, written, key.encode_of_decode hk, hwritten, ?_⟩
      exact (Table.insert_append _ fun other hother =>
        hstart other hother entry List.mem_cons_self).symm
    have hbelow : ∀ other ∈ start ++ [(entry.1, written)], ∀ entry' ∈ rest,
        other.1 < entry'.1 := by
      intro other hother entry' hentry'
      rcases List.mem_append.mp hother with hmem | hmem
      · exact hstart other hmem entry' (List.mem_cons_of_mem _ hentry')
      · obtain rfl := List.mem_singleton.mp hmem
        exact hhead entry' hentry'
    obtain ⟨base, hbase, hall⟩ := ih htail hbelow hrest hothers
    refine ⟨(entry.1, written) :: base, ?_, .cons ⟨rfl, hkept⟩ hall⟩
    rw [foldlM_cons_eq_ok_iff]
    exact ⟨_, hnext, by rw [hbase, List.append_assoc]; rfl⟩

theorem madeUp_map_iff {read options : Fields} {entries : List (key.Value × s.Value)}
    (hread : read.mapM (decodeEntry key s) = .ok entries) :
    MadeUp (.map key s) entries options ↔ ∀ entry ∈ read, ∀ value, decode s entry.2 = .ok value →
      OfObject (MadeUp s value) (options.get? entry.1) := by
  rw [MadeUp]
  constructor
  · intro h entry hmem value hvalue
    obtain ⟨⟨k, value'⟩, hentry⟩ := exists_mapM_eq_ok_iff.mp ⟨entries, hread⟩ entry hmem
    obtain ⟨hk, hvalue'⟩ := decodeEntry_eq_ok_iff.mp hentry
    obtain rfl := Except.ok.inj (hvalue.symm.trans hvalue')
    exact h (k, value) ((mem_of_mapM_eq_ok hread).mpr ⟨entry, hmem, hentry⟩) entry.1
      (key.encode_of_decode hk)
  · rintro h ⟨k, value⟩ hmem name hname
    obtain ⟨entry, hentry, hread'⟩ := (mem_of_mapM_eq_ok hread).mp hmem
    obtain ⟨hk, hvalue⟩ := decodeEntry_eq_ok_iff.mp hread'
    obtain rfl := Except.ok.inj ((key.encode_of_decode hk).symm.trans hname)
    exact h entry hentry value hvalue

/-- Under the same keys the same map is read exactly when each value is. -/
theorem mapM_decodeEntry_iff {read again : Fields} {entries : List (key.Value × s.Value)}
    (hsorted : read.Sorted) (hkeys : Table.keys again = Table.keys read)
    (hread : read.mapM (decodeEntry key s) = .ok entries) :
    again.mapM (decodeEntry key s) = .ok entries ↔ ∀ entry ∈ read, ∀ value,
      decode s entry.2 = .ok value → ∀ written, again.get? entry.1 = some written →
        decode s written = .ok value := by
  induction read generalizing again entries with
  | nil =>
    obtain rfl : again = [] := List.map_eq_nil_iff.mp hkeys
    exact iff_of_true hread (by simp)
  | cons entry rest ih =>
    obtain ⟨name, below⟩ := entry
    rcases again with _ | ⟨⟨name', written⟩, rest'⟩
    · cases hkeys
    obtain ⟨hname, hrest⟩ : name' = name ∧ Table.keys rest' = Table.keys rest :=
      List.cons.inj hkeys
    subst hname
    obtain ⟨hhead, htail⟩ := List.pairwise_cons.mp hsorted
    rw [List.mapM_cons] at hread
    obtain ⟨⟨k, value⟩, hentry, hread⟩ := bind_eq_ok_iff.mp hread
    obtain ⟨others, hothers, heq⟩ := bind_eq_ok_iff.mp hread
    obtain rfl := Except.ok.inj heq
    obtain ⟨hk, hvalue⟩ := decodeEntry_eq_ok_iff.mp hentry
    have hfirst : decodeEntry key s (name', written) = .ok (k, value) ↔
        decode s written = .ok value := by
      rw [decodeEntry_eq_ok_iff, and_iff_right hk]
    have hlater : ∀ entry ∈ rest,
        Table.get? entry.1 ((name', written) :: rest') = Table.get? entry.1 rest' :=
      fun entry hmem => Table.get?_cons_of_ne (Std.ne_of_lt (hhead entry hmem)) _ _
    rw [List.forall_mem_cons, mapM_eq_ok_iff_forall₂, List.forall₂_cons, ← mapM_eq_ok_iff_forall₂,
      hfirst, ih htail hrest hothers]
    refine and_congr ?_ (forall₂_congr fun entry hmem => by rw [hlater entry hmem])
    have hvalue : decode s below = .ok value := hvalue
    simp [hvalue, Table.get?_cons_self]

end Maps

/-- Whether the value of an entry is renewed as `written`, with the option of the entry. -/
def RenewedBy (s : Shape) (options : Fields) (entry : String × Json) (written : Json) : Prop :=
  ∀ value, decode s entry.2 = .ok value → Renewed s (options.get? entry.1) value written

theorem Repeats.map (key : KeyShape) {s : Shape} (ih : Repeats s) : Repeats (.map key s) := by
  intro lower upper hlower hupper merged entries hmerged hread
  cases merged with
  | object fields =>
    rw [decode_map_object] at hread
    obtain ⟨base, options, hbase, hoptions, hbelow, habove, rfl⟩ :=
      Json.exists_merge_of_layer (fun written h => (hlower written h).1) hupper hmerged
    have hsorted := Fields.sorted_merge hbase.sorted options
    have hbelow : ∀ name, Below s (Table.get? name base) := by
      intro name written hget
      refine ⟨hbase.of_get? hget, ?_⟩
      rcases hbelow with rfl | rfl
      · obtain ⟨-, below, hwritten⟩ := hlower _ rfl
        obtain ⟨fields, hfields, heq⟩ := encode_map_eq_ok hwritten
        obtain rfl := Json.object.inj heq
        exact exists_of_mem_putEntries (by simp) hfields _ (Table.mem_of_get? hget)
      · cases hget
    have hentry : ∀ entry ∈ Fields.merge base options, ∀ value, decode s entry.2 = .ok value →
        ∃ written, encode s value = .ok written ∧ RenewedBy s options entry written := by
      intro entry hmem value hvalue
      have hget := Table.get?_of_mem hsorted hmem
      rw [Fields.get?_merge_eq_layer base hoptions.sorted] at hget
      obtain ⟨written, hrenewed⟩ :=
        ih (hbelow entry.1) (fun setting h => hoptions.of_get? h) hget hvalue
      refine ⟨written, hrenewed.encode_eq, fun value' hvalue' => ?_⟩
      obtain rfl := Except.ok.inj (hvalue.symm.trans hvalue')
      exact hrenewed
    have hnone : ∀ entry ∈ ([] : Fields), ∀ entry' ∈ Fields.merge base options,
        entry.1 < entry'.1 := by simp
    obtain ⟨base', hwritten, hrenewed⟩ := exists_putEntries hsorted hnone hread hentry
    have hkeys := Table.keys_of_renewed hrenewed
    have hsorted' : Table.Sorted base' := by
      refine List.pairwise_map.mp (?_ : (Table.keys base').Pairwise (· < ·))
      rw [hkeys]
      exact Table.pairwise_keys hsorted
    have hkeys' : Table.keys (Fields.merge base' options) = Table.keys (base.merge options) := by
      refine (Fields.keys_merge hsorted' hoptions.sorted fun name hname => ?_).trans hkeys
      rw [Table.isSome_get?_iff, hkeys, ← Table.isSome_get?_iff,
        Fields.get?_merge_eq_layer base hoptions.sorted]
      obtain ⟨setting, hsetting⟩ := Option.isSome_iff_exists.mp hname
      simp [hsetting]
    have hmadeUp : OfObject (MadeUp (.map key s) entries) upper ↔
        ∀ entry ∈ base.merge options, ∀ value, decode s entry.2 = .ok value →
          OfObject (MadeUp s value) (options.get? entry.1) := by
      rcases habove with rfl | ⟨rfl, rfl⟩
      · exact madeUp_map_iff hread
      · exact iff_of_true trivial fun _ _ _ _ => trivial
    -- What is read again under a key is what the renewed value and its option are read as.
    have hreads : ReadsOver (.map key s) (.object base') upper entries ↔
        ∀ entry ∈ base.merge options, ∀ value, decode s entry.2 = .ok value →
          OfObject (MadeUp s value) (options.get? entry.1) := by
      rw [ReadsOver, Json.layer_object habove]
      simp only [Option.some.injEq, exists_eq_left', decode_map_object]
      rw [mapM_decodeEntry_iff hsorted hkeys' hread]
      refine forall₂_congr fun entry hmem => forall₂_congr fun value hvalue => ?_
      obtain ⟨written, hget', hone⟩ := Table.get?_of_renewed hsorted hrenewed hmem
      rw [Fields.get?_merge_eq_layer base' hoptions.sorted, hget',
        ← (hone value hvalue).reads_iff, ReadsOver]
      cases Table.get? entry.1 options <;> simp
    refine ⟨.object base', bind_eq_ok_iff.mpr ⟨base', hwritten, rfl⟩, hreads.trans hmadeUp.symm,
      fun hbare => hmadeUp.mpr fun entry hmem value hvalue => ?_⟩
    obtain ⟨written, -, hone⟩ := Table.get?_of_renewed hsorted hrenewed hmem
    exact (hone value hvalue).madeUp hbare
  | _ => cases hread

/-! ### Records -/

/-- Whether a field repeats: it is never written, or what it is read from and what it is when it is
missing do. -/
def FieldRepeats (rule : FieldRule) (s : Shape) : Prop :=
  (∀ value, rule.omits (datum s value) = true) ∨
    Repeats s ∧ OmitsAlike rule s ∧ ∀ value, standIn rule s = .ok value → ReadsBack s value

/-- Whether a field is made up by its option, if it is left out, or the fields in it are. -/
def MadeUpAt (rule : FieldRule) (s : Shape) (value : s.Value) (upper : Option Json) : Prop :=
  OfObject (fun setting => if rule.omits (datum s value) then
    decode s (.object setting) = .ok value else MadeUp s value setting) upper

/-- Whether a field is left out always, or only without entries. -/
def BareAt (rule : FieldRule) (s : Shape) : Prop :=
  (∀ value, rule.omits (datum s value) = true) ∨ OmitsBare rule s ∧ Bare s

/-- What may stand under the name of a field: the written form of a value that is not left out. -/
def BelowAt (rule : FieldRule) (s : Shape) (lower : Option Json) : Prop :=
  ∀ written ∈ lower, written.Ordered ∧
    ∃ value, encode s value = .ok written ∧ rule.omits (datum s value) = false

section Fields

variable {rule : FieldRule} {s : Shape} {lower upper : Option Json} {value : s.Value}

theorem BelowAt.below (h : BelowAt rule s lower) : Below s lower := by
  intro written hmem
  obtain ⟨hordered, old, hold, -⟩ := h written hmem
  exact ⟨hordered, old, hold⟩

theorem WrittenAt.belowAt (h : WrittenAt rule s lower value)
    (hordered : ∀ written ∈ lower, written.Ordered) : BelowAt rule s lower := by
  rintro written rfl
  exact ⟨hordered _ rfl, value, h.2, h.1⟩

theorem mergeOver_of_bare {written setting : Json} (hsetting : setting.Ordered)
    (h : ∀ base, written = .object base → base = []) :
    Json.mergeOver (some written) setting = setting := by
  by_cases hobject : ∃ base, written = .object base
  · obtain ⟨base, rfl⟩ := hobject
    obtain rfl := h base rfl
    cases setting with
    | object options => rw [Json.mergeOver_object_object, Fields.merge_nil_left hsetting.sorted]
    | _ => rw [Json.mergeOver_of_ne_object (by simp)]
  · exact Json.mergeOver_of_base_ne_object
      (fun base heq => hobject ⟨base, Option.some.inj heq⟩) setting

theorem madeUpAt_of_omits (homits : rule.omits (datum s value) = true) :
    MadeUpAt rule s value upper ↔
      ∀ setting, upper = some (.object setting) → decode s (.object setting) = .ok value := by
  unfold MadeUpAt OfObject
  split
  · simp [homits]
  case h_2 hnone => exact iff_of_true trivial fun setting heq => absurd heq (hnone setting)

theorem madeUpAt_of_not_omits (homits : rule.omits (datum s value) = false) :
    MadeUpAt rule s value upper ↔ OfObject (MadeUp s value) upper :=
  ofObject_congr (fun setting => by simp [homits]) upper

/-- When nothing is ever written of a field, its option alone decides. -/
theorem readAt_of_always (halways : ∀ value, rule.omits (datum s value) = true)
    (hlower : BelowAt rule s lower) (hread : ReadAt rule s (Json.layer lower upper) value) :
    ReadAt rule s (Json.layer none upper) value ∧ MadeUpAt rule s value upper := by
  obtain rfl : lower = none := by
    refine Option.eq_none_iff_forall_ne_some.mpr fun written hmem => ?_
    obtain ⟨-, old, -, hkept⟩ := hlower written hmem
    simp [halways old] at hkept
  refine ⟨hread, (madeUpAt_of_omits (halways value)).mpr ?_⟩
  rintro setting rfl
  rw [Json.layer_some, Json.mergeOver_none] at hread
  exact hread

/-- A field that was read with an option over something is read again when the option is laid over
what is then written, exactly when it is made up if it has to be. -/
theorem FieldRepeats.readAt (h : FieldRepeats rule s) (hlower : BelowAt rule s lower)
    (hupper : ∀ setting ∈ upper, setting.Ordered)
    (hread : ReadAt rule s (Json.layer lower upper) value) :
    WritableAt rule s value ∧
      (∀ lower', WrittenAt rule s lower' value →
        (ReadAt rule s (Json.layer lower' upper) value ↔ MadeUpAt rule s value upper)) ∧
      (BareAt rule s → MadeUpAt rule s value upper) := by
  by_cases halways : ∀ value, rule.omits (datum s value) = true
  · obtain ⟨hagain, hmadeUp⟩ := readAt_of_always halways hlower hread
    refine ⟨.inl (halways value), fun lower' hwritten => ?_, fun _ => hmadeUp⟩
    rcases lower' with _ | written
    · exact iff_of_true hagain hmadeUp
    · have hkept := hwritten.1
      simp [halways value] at hkept
  obtain ⟨hrepeats, halike, hstandIn⟩ := h.resolve_left halways
  rcases hmerged : Json.layer lower upper with _ | merged
  · -- The field was missing, and was given its fallback.
    obtain rfl : upper = none := by
      cases upper with
      | none => rfl
      | some setting => cases hmerged
    rw [hmerged] at hread
    obtain ⟨written, hwritten, hagain⟩ := hstandIn value hread
    refine ⟨.inr ⟨written, hwritten⟩, fun lower' hlower' => iff_of_true ?_ trivial,
      fun _ => trivial⟩
    rcases lower' with _ | written'
    · exact hread
    · obtain rfl := Except.ok.inj (hwritten.symm.trans hlower'.2)
      exact hagain
  rw [hmerged] at hread
  obtain ⟨written, hrenewed⟩ := hrepeats hlower.below hupper hmerged hread
  refine ⟨.inr ⟨written, hrenewed.encode_eq⟩, fun lower' hlower' => ?_, fun hbare => ?_⟩
  · rcases lower' with _ | written'
    · -- What is left out now was written before only if an option has come over it.
      rw [madeUpAt_of_omits hlower']
      rcases upper with _ | setting
      · obtain ⟨-, old, hold, hkept⟩ := hlower merged hmerged
        simp [halike old value merged hlower' hold hread] at hkept
      rw [Json.layer_some, Json.mergeOver_none, ReadAt]
      refine ⟨fun hagain options heq => Option.some.inj heq ▸ hagain, fun hmadeUp => ?_⟩
      by_cases hobject : ∃ options, setting = .object options
      · obtain ⟨options, rfl⟩ := hobject
        exact hmadeUp options rfl
      · rw [Json.layer_some, Json.mergeOver_of_ne_object fun options heq => hobject ⟨options, heq⟩]
          at hmerged
        obtain rfl := Option.some.inj hmerged
        exact hread
    · obtain rfl := Except.ok.inj (hrenewed.encode_eq.symm.trans hlower'.2)
      rw [madeUpAt_of_not_omits hlower'.1, ← hrenewed.reads_iff, ReadsOver]
      cases upper <;> simp [ReadAt]
  · obtain ⟨hempty, hbares⟩ := hbare.resolve_left halways
    by_cases homits : rule.omits (datum s value) = true
    · rw [madeUpAt_of_omits homits]
      rintro options rfl
      obtain ⟨again, hover, hagain⟩ := hrenewed.reads_iff.mpr (hrenewed.madeUp hbares)
      rw [Json.layer_some, mergeOver_of_bare (hupper _ rfl)] at hover
      · obtain rfl := Option.some.inj hover
        exact hagain
      · rintro base rfl
        exact hempty value base homits hrenewed.encode_eq
    · rw [madeUpAt_of_not_omits (by simpa using homits)]
      exact hrenewed.madeUp hbares

end Fields

section Rows

variable {fields : List (FieldRule × Shape)} {values : FieldRow fields}

theorem readRow_again (h : ∀ field ∈ fields, FieldRepeats field.1 field.2)
    {look : String → Option Json} {options : Fields} (hoptions : (Json.object options).Ordered)
    (hlower : ∀ field ∈ fields, BelowAt field.1 field.2 (look field.1.name))
    (hread : ReadRow fields (fun name => Json.layer (look name) (options.get? name)) values) :
    WritableRow fields values ∧
      (∀ look', WrittenRow fields look' values →
        (ReadRow fields (fun name => Json.layer (look' name) (options.get? name)) values ↔
          MadeUpRow fields values options)) ∧
      (BareFields fields → MadeUpRow fields values options) := by
  induction fields with
  | nil => exact ⟨trivial, fun _ _ => Iff.rfl, fun _ => trivial⟩
  | cons field rest ih =>
    obtain ⟨rule, s⟩ := field
    obtain ⟨value, values⟩ := values
    rw [List.forall_mem_cons] at h hlower
    obtain ⟨hone, hrest⟩ := hread
    obtain ⟨hwritable, hagain, hmadeUp⟩ :=
      h.1.readAt hlower.1 (fun setting hget => hoptions.of_get? hget) hone
    obtain ⟨hwritables, hagains, hmadeUps⟩ := ih h.2 hlower.2 hrest
    exact ⟨⟨hwritable, hwritables⟩,
      fun look' hwritten => and_congr (hagain _ hwritten.1) (hagains look' hwritten.2),
      fun hbare => ⟨hmadeUp hbare.1, hmadeUps hbare.2⟩⟩

theorem madeUpRow_nil (fields : List (FieldRule × Shape)) (values : FieldRow fields) :
    MadeUpRow fields values [] := by
  induction fields with
  | nil => trivial
  | cons field rest ih => exact ⟨trivial, ih values.2⟩

theorem WrittenRow.belowAt {base : Fields} (hbase : (Json.object base).Ordered)
    (h : WrittenRow fields (fun name => base.get? name) values) :
    ∀ field ∈ fields, BelowAt field.1 field.2 (base.get? field.1.name) := by
  induction fields with
  | nil => exact fun _ hmem => by cases hmem
  | cons field rest ih =>
    obtain ⟨rule, s⟩ := field
    obtain ⟨value, values⟩ := values
    obtain ⟨hone, hrest⟩ := h
    exact List.forall_mem_cons.mpr ⟨hone.belowAt fun written hget => hbase.of_get? hget, ih hrest⟩

theorem strangers_again (hnamed : Named fields) {base base' options : Fields}
    (hoptions : options.Sorted) (hnone : strangers fields (base.merge options) = [])
    (hnothing : ∀ key, key ∉ fields.map (·.1.name) → base'.get? key = none) :
    strangers fields (base'.merge options) = [] := by
  rw [strangers_eq_nil_iff hnamed] at hnone ⊢
  intro key hkey
  have hmissing := hnone key hkey
  rw [Fields.get?_merge_eq_layer base hoptions] at hmissing
  rw [Fields.get?_merge_eq_layer base' hoptions, hnothing key hkey]
  cases hoption : Table.get? key options with
  | none => rfl
  | some setting =>
    rw [hoption] at hmissing
    cases hmissing

theorem FieldRepeats.writable_of_standIn {rule : FieldRule} {s : Shape} (h : FieldRepeats rule s)
    {value : s.Value} (hread : standIn rule s = .ok value) : WritableAt rule s value := by
  rcases h with halways | ⟨-, -, hstandIn⟩
  · exact Or.inl (halways value)
  · obtain ⟨written, hwritten, -⟩ := hstandIn value hread
    exact Or.inr ⟨written, hwritten⟩

theorem writableRow_of_decodeFieldRow (h : ∀ field ∈ fields, FieldRepeats field.1 field.2)
    {wanted : WantedLength} {read : Nat} {items left : List Json}
    (hitems : ∀ item ∈ items, item.Ordered)
    (hread : decodeFieldRow wanted read fields items = .ok (values, left)) :
    WritableRow fields values := by
  induction fields generalizing read items left with
  | nil => trivial
  | cons field rest ih =>
    obtain ⟨rule, s⟩ := field
    obtain ⟨value, values⟩ := values
    rw [List.forall_mem_cons] at h
    rcases items with _ | ⟨item, items⟩
    · rw [decodeFieldRow] at hread
      split at hread
      case h_1 => cases hread
      case h_2 written hfallback =>
        obtain ⟨one, hone, hread⟩ := bind_eq_ok_iff.mp hread
        obtain ⟨⟨others, left'⟩, hothers, heq⟩ := bind_eq_ok_iff.mp hread
        obtain ⟨hrow, -⟩ := Prod.mk.inj (Except.ok.inj heq)
        obtain ⟨rfl, rfl⟩ := Prod.mk.inj hrow
        have hstandIn : standIn rule s = .ok one := by
          rw [standIn, hfallback]
          exact hone
        exact ⟨h.1.writable_of_standIn hstandIn, ih h.2 hitems hothers⟩
    · rw [decodeFieldRow] at hread
      obtain ⟨one, hone, hread⟩ := bind_eq_ok_iff.mp hread
      obtain ⟨⟨others, left'⟩, hothers, heq⟩ := bind_eq_ok_iff.mp hread
      obtain ⟨hrow, -⟩ := Prod.mk.inj (Except.ok.inj heq)
      obtain ⟨rfl, rfl⟩ := Prod.mk.inj hrow
      obtain ⟨hitem, hitems⟩ := List.forall_mem_cons.mp hitems
      refine ⟨?_, ih h.2 hitems hothers⟩
      rcases h.1 with halways | ⟨hrepeats, -, -⟩
      · exact Or.inl (halways one)
      · exact Or.inr (hrepeats.writable hitem hone)

end Rows

theorem decode_record_list {title : String} {fields : List (FieldRule × Shape)} {others : Others}
    (hothers : others ≠ .kept) {items : List Json} {values : FieldRow fields} {kept : others.Value}
    (h : decode (.record title fields others) (.list items) = .ok (values, kept)) :
    ∃ wanted left, decodeFieldRow wanted 0 fields items = .ok (values, left) := by
  obtain ⟨⟨read, left⟩, hrow, hused⟩ : ∃ row,
      decodeFieldRow (.titled title fields.length) 0 fields items = .ok row ∧
        allUsed items row = .ok values := by
    cases others with
    | kept => exact absurd rfl hothers
    | ignored | refused =>
      obtain ⟨row, hrow, h⟩ := bind_eq_ok_iff.mp h
      obtain ⟨used, hused, heq⟩ := bind_eq_ok_iff.mp h
      obtain ⟨rfl, -⟩ := Prod.mk.inj (Except.ok.inj heq)
      exact ⟨row, hrow, hused⟩
  rw [allUsed] at hused
  split at hused
  · obtain rfl := Except.ok.inj hused
    exact ⟨_, left, hrow⟩
  · cases hused

theorem Repeats.record (title : String) {fields : List (FieldRule × Shape)} {others : Others}
    (hothers : others ≠ .kept) (hnamed : Named fields)
    (ih : ∀ field ∈ fields, FieldRepeats field.1 field.2) :
    Repeats (.record title fields others) := by
  rintro lower upper hlower hupper merged ⟨values, kept⟩ hmerged hread
  cases merged with
  | object entries =>
    obtain ⟨base, options, hbase, hoptions, hbelow, habove, rfl⟩ :=
      Json.exists_merge_of_layer (fun written h => (hlower written h).1) hupper hmerged
    have hsorted := Fields.sorted_merge hbase.sorted options
    have hbelow : ∀ field ∈ fields, BelowAt field.1 field.2 (base.get? field.1.name) := by
      rcases hbelow with rfl | rfl
      · obtain ⟨-, ⟨olds, old⟩, hold⟩ := hlower _ rfl
        obtain ⟨base', hbase', heq⟩ := (encode_record_eq_ok_iff hothers).mp hold
        obtain rfl := Json.object.inj heq
        exact (writtenRow_of_encodeFields hnamed hbase').1.belowAt hbase
      · exact fun _ _ _ hmem => by cases hmem
    obtain ⟨hrow, hkept⟩ := decode_record_eq_ok_iff.mp hread
    rw [givenRow_iff_readRow hnamed hsorted] at hrow
    have hlook : ReadRow fields
        (fun name => Json.layer (base.get? name) (options.get? name)) values :=
      hrow.congr fun name _ => Fields.get?_merge_eq_layer base hoptions.sorted name
    obtain ⟨hwritable, hagain, hmadeUp⟩ := readRow_again ih hoptions hbelow hlook
    obtain ⟨base', hbase'⟩ := hwritable.exists_encodeFields
    obtain ⟨hwritten, hnothing⟩ := writtenRow_of_encodeFields hnamed hbase'
    have hothers' : GivenOthers others (strangers fields (Fields.merge base' options)) kept := by
      cases others with
      | kept => exact absurd rfl hothers
      | ignored => trivial
      | refused => exact strangers_again hnamed hoptions.sorted hkept hnothing
    have hreads : ReadsOver (.record title fields others) (.object base') upper (values, kept) ↔
        MadeUpRow fields values options := by
      rw [← hagain _ hwritten, ReadsOver, Json.layer_object habove]
      simp only [Option.some.injEq, exists_eq_left']
      rw [decode_record_eq_ok_iff, and_iff_left hothers',
        givenRow_iff_readRow hnamed (Fields.sorted_merge (sorted_encodeFields hbase') options)]
      have hget := Fields.get?_merge_eq_layer base' hoptions.sorted
      exact ⟨fun hrow => hrow.congr fun name _ => hget name,
        fun hrow => hrow.congr fun name _ => (hget name).symm⟩
    have hupper' : OfObject (MadeUp (.record title fields others) (values, kept)) upper ↔
        MadeUpRow fields values options := by
      rcases habove with rfl | ⟨rfl, rfl⟩
      · rfl
      · exact iff_of_true trivial (madeUpRow_nil fields values)
    exact ⟨.object base', (encode_record_eq_ok_iff hothers).mpr ⟨base', hbase', rfl⟩,
      hreads.trans hupper'.symm, fun hbare => hupper'.mpr (hmadeUp hbare)⟩
  | list items =>
    rcases Json.layer_eq_of_ne_object (by simp) hmerged with ⟨-, rfl⟩ | rfl
    · obtain ⟨-, ⟨olds, old⟩, hold⟩ := hlower _ rfl
      obtain ⟨base, -, heq⟩ := (encode_record_eq_ok_iff hothers).mp hold
      cases heq
    · -- A list takes the place of the record and has no place for options.
      have hordered := hupper _ rfl
      rw [Json.Ordered, Json.orderedItems_iff] at hordered
      obtain ⟨wanted, left, hrow⟩ := decode_record_list hothers hread
      obtain ⟨base', hbase'⟩ :=
        (writableRow_of_decodeFieldRow ih hordered hrow).exists_encodeFields
      refine ⟨.object base', .of_reads ((encode_record_eq_ok_iff hothers).mpr ⟨base', hbase', rfl⟩)
        ⟨.list items, ?_, hread⟩ trivial⟩
      rw [Json.layer_some, Json.mergeOver_of_ne_object (by simp)]
  | _ => cases others <;> cases hread

/-! ### All shapes -/

mutual

theorem repeats : (s : Shape) → Restoring s → Repeats s
  | .json, _ => repeats_json
  | .option s, h => Repeats.option h (repeats s h)
  | .list s, h => (repeats s h).list
  | .map key s, h => (repeats s h).map key
  | .record title fields _, h => .record title h.1 h.2.1 (fieldRepeats fields h.2.2)
  | .unit, h | .bool, h | .int _, h | .single, h | .double, h | .char, h | .text, h
  | .tuple _ _, h => repeats_of_leaf h.1 h.2
  | .external _, h | .tagged _ _ _, h | .untagged _ _, h => h.1.elim

theorem fieldRepeats : (fields : List (FieldRule × Shape)) → RestoringFields fields →
    ∀ field ∈ fields, FieldRepeats field.1 field.2
  | [], _ => fun _ hmem => by cases hmem
  | (_, s) :: rest, h => List.forall_mem_cons.mpr
    ⟨h.1.imp_right fun hs => ⟨repeats s hs.1, hs.2⟩, fieldRepeats rest h.2⟩

end

end FilterGateway.Shape
