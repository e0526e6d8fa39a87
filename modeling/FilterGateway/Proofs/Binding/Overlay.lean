import FilterGateway.Proofs.Binding.Merging
import Mathlib.Data.List.Forall2

/-!
# Laying the same options over twice

What stands under a key of a merged object is what one of the two objects has there, or the one laid
over the other. Once options are laid over something they change nothing more, and they add no key
to an object that has all of their keys.
-/

namespace FilterGateway

theorem Json.orderedItems_iff (items : List Json) :
    OrderedItems items ↔ ∀ item ∈ items, item.Ordered := by
  induction items with
  | nil => simp [OrderedItems]
  | cons item rest ih => simp [OrderedItems, ih]

/-- What is there once `upper` is laid over `lower`, where either may be missing. -/
def Json.layer (lower : Option Json) : Option Json → Option Json
  | none => lower
  | some upper => some (mergeOver lower upper)

@[simp] theorem Json.layer_none (lower : Option Json) : layer lower none = lower := rfl

@[simp] theorem Json.layer_some (lower : Option Json) (upper : Json) :
    layer lower (some upper) = some (mergeOver lower upper) := rfl

theorem Json.layer_eq_of_ne_object {lower upper : Option Json} {value : Json}
    (hvalue : ∀ fields, value ≠ .object fields) (h : layer lower upper = some value) :
    (upper = none ∧ lower = some value) ∨ upper = some value := by
  rcases upper with _ | setting
  · exact Or.inl ⟨rfl, h⟩
  · cases setting with
    | object options =>
      obtain ⟨fields, hfields⟩ := exists_mergeOver_object lower options
      rw [layer_some, hfields] at h
      exact absurd (Option.some.inj h).symm (hvalue fields)
    | _ =>
      rw [layer_some, mergeOver_of_ne_object (by simp)] at h
      exact Or.inr h

namespace Fields

theorem get?_merge_eq_layer (base : Fields) {options : Fields} (h : options.Sorted) (key : String) :
    (base.merge options).get? key = Json.layer (base.get? key) (options.get? key) := by
  rw [get?_merge base h]
  cases Table.get? key options <;> rfl

end Fields

namespace Json

theorem exists_mergeOver_eq_merge {options : Fields} (hoptions : (object options).Ordered)
    {lower : Option Json} (hlower : ∀ written ∈ lower, written.Ordered) :
    ∃ base : Fields, (object base).Ordered ∧ (lower = some (object base) ∨ base = []) ∧
      mergeOver lower (object options) = object (base.merge options) := by
  by_cases hobject : ∃ base, lower = some (object base)
  · obtain ⟨base, rfl⟩ := hobject
    exact ⟨base, hlower _ rfl, Or.inl rfl, mergeOver_object_object base options⟩
  · refine ⟨[], ?_, Or.inr rfl, ?_⟩
    · simp [Ordered, OrderedFields, Table.sorted_nil]
    · rw [mergeOver_of_base_ne_object (fun base heq => hobject ⟨base, heq⟩),
        Fields.merge_nil_left hoptions.sorted]

/-- An object that is there at the end is a merged one. -/
theorem exists_merge_of_layer {lower upper : Option Json} {fields : Fields}
    (hlower : ∀ written ∈ lower, written.Ordered) (hupper : ∀ setting ∈ upper, setting.Ordered)
    (h : layer lower upper = some (object fields)) :
    ∃ base options : Fields, (object base).Ordered ∧ (object options).Ordered ∧
      (lower = some (object base) ∨ base = []) ∧
      (upper = some (object options) ∨ upper = none ∧ options = []) ∧
      fields = base.merge options := by
  rcases upper with _ | setting
  · refine ⟨fields, [], hlower _ h, ?_, Or.inl h, Or.inr ⟨rfl, rfl⟩, by simp⟩
    simp [Ordered, OrderedFields, Table.sorted_nil]
  · have hmerged : mergeOver lower setting = object fields := Option.some.inj h
    cases setting with
    | object options =>
      have hoptions := hupper _ rfl
      obtain ⟨base, hbase, hwhere, hmerge⟩ := exists_mergeOver_eq_merge hoptions hlower
      exact ⟨base, options, hbase, hoptions, hwhere, Or.inl rfl,
        object.inj (hmerged.symm.trans hmerge)⟩
    | _ =>
      rw [mergeOver_of_ne_object (by simp)] at hmerged
      cases hmerged

theorem layer_object {upper : Option Json} {options : Fields}
    (h : upper = some (object options) ∨ upper = none ∧ options = []) (base : Fields) :
    layer (some (object base)) upper = some (object (base.merge options)) := by
  rcases h with rfl | ⟨rfl, rfl⟩
  · rw [layer_some, mergeOver_object_object]
  · rw [layer_none, Fields.merge_nil]

/-- What is laid over twice is as good as laid over once. -/
theorem mergeOver_mergeOver (upper : Json) (hupper : upper.Ordered) {lower : Option Json}
    (hlower : ∀ written ∈ lower, written.Ordered) :
    mergeOver (some (mergeOver lower upper)) upper = mergeOver lower upper := by
  match upper, hupper with
  | .object options, hupper =>
    obtain ⟨base, hbase, -, hmerge⟩ := exists_mergeOver_eq_merge hupper hlower
    rw [hmerge, mergeOver_object_object]
    congr 1
    refine Table.Sorted.ext (Fields.sorted_merge (Fields.sorted_merge hbase.sorted _) _)
      (Fields.sorted_merge hbase.sorted _) fun key => ?_
    rw [Fields.get?_merge_eq_layer _ hupper.sorted, Fields.get?_merge_eq_layer _ hupper.sorted]
    rcases hkey : Table.get? key options with _ | setting
    · rfl
    · have hmem := Table.mem_of_get? hkey
      exact congrArg some (mergeOver_mergeOver setting (hupper.of_get? hkey)
        fun written hwritten => hbase.of_get? hwritten)
  | .null, _ | .bool _, _ | .int _, _ | .float _, _ | .text _, _ | .list _, _ =>
    rw [mergeOver_of_ne_object (by simp), mergeOver_of_ne_object (by simp)]
termination_by sizeOf upper
decreasing_by
  have hsmaller := List.sizeOf_lt_of_mem hmem
  simp only [Prod.mk.sizeOf_spec, Json.object.sizeOf_spec] at hsmaller ⊢
  omega

end Json

namespace Table

variable {α : Type}

theorem keys_eq_of_isSome {s t : Table α} (hs : s.Sorted) (ht : t.Sorted)
    (h : ∀ key, (s.get? key).isSome = (t.get? key).isSome) : s.keys = t.keys := by
  have hunit : s.mapValues (fun _ _ => ()) = t.mapValues (fun _ _ => ()) := by
    refine Sorted.ext (sorted_mapValues _ hs) (sorted_mapValues _ ht) fun key => ?_
    rw [get?_mapValues, get?_mapValues]
    have hkey := h key
    cases hs : s.get? key <;> cases ht : t.get? key <;> simp_all
  have hkeys := congrArg (List.map Prod.fst) hunit
  simpa [mapValues, keys, Function.comp_def] using hkeys

section Renewed

variable {s t : Table α} {renewed : String × α → α → Prop}

theorem keys_of_renewed
    (h : List.Forall₂ (fun entry entry' => entry'.1 = entry.1 ∧ renewed entry entry'.2) s t) :
    t.keys = s.keys := by
  induction h with
  | nil => rfl
  | cons hentry _ ih =>
    rw [keys, keys, List.map_cons, List.map_cons, hentry.1]
    exact congrArg _ ih

theorem get?_of_renewed (hs : s.Sorted)
    (h : List.Forall₂ (fun entry entry' => entry'.1 = entry.1 ∧ renewed entry entry'.2) s t)
    {entry : String × α} (hmem : entry ∈ s) :
    ∃ value, t.get? entry.1 = some value ∧ renewed entry value := by
  induction h with
  | nil => cases hmem
  | @cons first first' rest rest' hentry hrest ih =>
    obtain ⟨hhead, htail⟩ := List.pairwise_cons.mp hs
    obtain ⟨key', value'⟩ := first'
    obtain ⟨rfl, hrenewed⟩ := hentry
    rcases List.mem_cons.mp hmem with rfl | hlater
    · exact ⟨value', get?_cons_self _ _ _, hrenewed⟩
    · obtain ⟨value, hget, hvalue⟩ := ih htail hlater
      refine ⟨value, ?_, hvalue⟩
      rw [get?_cons_of_ne (Std.ne_of_lt (hhead entry hlater)), hget]

end Renewed

end Table

theorem Fields.keys_merge {base options : Fields} (hbase : base.Sorted) (hoptions : options.Sorted)
    (h : ∀ key, (options.get? key).isSome = true → (base.get? key).isSome = true) :
    Table.keys (base.merge options) = base.keys := by
  refine Table.keys_eq_of_isSome (sorted_merge hbase _) hbase fun key => ?_
  rw [get?_merge_eq_layer base hoptions]
  have hkey := h key
  cases hoption : Table.get? key options <;> simp_all

end FilterGateway
