import FilterGateway.Json.Merge
import Mathlib.Data.List.Basic
import Mathlib.Data.List.Induction
import Mathlib.Data.List.Nodup

/-!
# What merging does to a table

A table in order is given by what stands under each key. So the laws of merging are laws about
look-ups: what stands under a key of the merged table is decided by what the two tables have there.
Merging keeps the order and may be looked at for some of the keys only.
-/

namespace FilterGateway

namespace Table

variable {α β : Type}

/-- The entries whose keys have a property. -/
def restrict (p : String → Bool) (t : Table α) : Table α :=
  t.filter fun entry => p entry.1

theorem erase_eq_restrict (key : String) (t : Table α) : t.erase key = t.restrict (· != key) := rfl

@[simp] theorem restrict_nil (p : String → Bool) : restrict p ([] : Table α) = [] := rfl

theorem restrict_cons (p : String → Bool) (entry : String × α) (t : Table α) :
    restrict p (entry :: t) = if p entry.1 then entry :: restrict p t else restrict p t :=
  List.filter_cons

theorem sorted_restrict (p : String → Bool) {t : Table α} (h : t.Sorted) : (t.restrict p).Sorted :=
  List.Pairwise.filter _ h

theorem get?_restrict (p : String → Bool) (key : String) (t : Table α) :
    (t.restrict p).get? key = if p key then t.get? key else none := by
  induction t with
  | nil => simp
  | cons entry rest ih =>
    obtain ⟨k, v⟩ := entry
    rw [restrict_cons]
    by_cases hk : k = key
    · subst hk
      by_cases hp : p k
      · simp [hp, get?]
      · simp [hp, ih]
    · by_cases hp : p k
      · simp [hp, get?, hk, ih]
      · simp [hp, get?, hk, ih]

theorem eq_nil_iff_get? {t : Table α} : t = [] ↔ ∀ key, t.get? key = none := by
  constructor
  · rintro rfl key
    rfl
  · intro h
    rcases t with _ | ⟨⟨key, v⟩, rest⟩
    · rfl
    · have hnone := h key
      simp [get?] at hnone

theorem get?_cons_self (key : String) (v : α) (t : Table α) :
    get? key ((key, v) :: t) = some v := by
  simp [get?]

theorem get?_cons_of_ne {k key : String} (h : k ≠ key) (v : α) (t : Table α) :
    get? key ((k, v) :: t) = t.get? key := by
  simp [get?, h]

theorem mem_of_get? {key : String} {v : α} {t : Table α} (h : t.get? key = some v) :
    (key, v) ∈ t := by
  induction t with
  | nil => cases h
  | cons entry rest ih =>
    obtain ⟨k, w⟩ := entry
    by_cases hk : k = key
    · subst hk
      obtain rfl : w = v := by simpa [get?] using h
      exact List.mem_cons_self
    · rw [get?_cons_of_ne hk] at h
      exact List.mem_cons_of_mem _ (ih h)

theorem get?_of_mem {key : String} {v : α} {t : Table α} (hsorted : t.Sorted)
    (h : (key, v) ∈ t) : t.get? key = some v := by
  induction t with
  | nil => cases h
  | cons entry rest ih =>
    obtain ⟨hhead, hrest⟩ := List.pairwise_cons.mp hsorted
    rcases List.mem_cons.mp h with rfl | hmem
    · simp [get?]
    · obtain ⟨k, w⟩ := entry
      have hlt : k < key := hhead _ hmem
      have hne : k ≠ key := fun heq => String.lt_irrefl key (heq ▸ hlt)
      rw [get?_cons_of_ne hne]
      exact ih hrest hmem

theorem insert_append {key : String} (v : α) {t : Table α} (h : ∀ entry ∈ t, entry.1 < key) :
    t.insert key v = t ++ [(key, v)] := by
  induction t with
  | nil => rfl
  | cons entry rest ih =>
    obtain ⟨k, w⟩ := entry
    rw [List.forall_mem_cons] at h
    have hne : key ≠ k := (Std.ne_of_lt h.1).symm
    have hnlt : ¬key < k := fun hlt => String.lt_irrefl k (String.lt_trans h.1 hlt)
    simp [insert, hne, hnlt, ih h.2]

theorem ofList_of_sorted {t : Table α} (h : t.Sorted) : ofList t = t := by
  induction t using List.reverseRecOn with
  | nil => rfl
  | append_singleton rest entry ih =>
    obtain ⟨hrest, -, hlast⟩ := List.pairwise_append.mp h
    have hbelow : ∀ other ∈ rest, other.1 < entry.1 := fun other hother =>
      hlast other hother entry (List.mem_singleton_self _)
    rw [ofList, List.foldl_append]
    change Table.insert entry.1 entry.2 (ofList rest) = _
    rw [ih hrest, insert_append entry.2 hbelow]

theorem eq_of_get?_singleton {k key : String} {v w : α} (h : get? key [(k, v)] = some w) :
    key = k :=
  congrArg Prod.fst (List.mem_singleton.mp (mem_of_get? h))

theorem get?_eq_none_of_lt {key : String} {t : Table α} (h : ∀ entry ∈ t, key < entry.1) :
    t.get? key = none := by
  cases hget : t.get? key with
  | none => rfl
  | some v => exact absurd (h _ (mem_of_get? hget)) (String.lt_irrefl key)

theorem get?_tail {k : String} {v : α} {t : Table α} (h : Sorted ((k, v) :: t)) :
    t.get? k = none :=
  get?_eq_none_of_lt (List.pairwise_cons.mp h).1

/-- Tables in order with the same assignments are equal. -/
theorem Sorted.ext {s t : Table α} (hs : s.Sorted) (ht : t.Sorted)
    (h : ∀ key, s.get? key = t.get? key) : s = t := by
  have hnodup : ∀ {u : Table α}, u.Sorted → u.Nodup := by
    intro u hu
    refine List.Pairwise.imp ?_ hu
    intro a b hlt heq
    exact String.lt_irrefl b.1 (heq ▸ hlt)
  have hperm : s.Perm t := by
    refine (List.perm_ext_iff_of_nodup (hnodup hs) (hnodup ht)).mpr ?_
    rintro ⟨key, v⟩
    constructor
    · intro hmem
      exact mem_of_get? ((h key).symm.trans (get?_of_mem hs hmem))
    · intro hmem
      exact mem_of_get? ((h key).trans (get?_of_mem ht hmem))
  exact hperm.eq_of_pairwise (fun a b _ _ hab hba => absurd (String.lt_trans hab hba)
    (String.lt_irrefl _)) hs ht

theorem eq_singleton_of_keys {key : String} {v : α} {t : Table α} (hsorted : t.Sorted)
    (hkeys : ∀ entry ∈ t, entry.1 = key) (hget : t.get? key = some v) : t = [(key, v)] := by
  refine Sorted.ext hsorted (List.pairwise_singleton _ _) fun other => ?_
  by_cases hother : key = other
  · subst hother
    simp [hget, get?]
  · rw [get?_cons_of_ne hother, get?_nil]
    cases hnone : t.get? other with
    | none => rfl
    | some w => exact absurd (hkeys _ (mem_of_get? hnone)).symm hother

end Table

namespace Json

mutual

/-- The fields of each object in a value are in order. -/
def Ordered : Json → Prop
  | .list items => OrderedItems items
  | .object fields => Table.Sorted fields ∧ OrderedFields fields
  | _ => True

def OrderedItems : List Json → Prop
  | [] => True
  | item :: rest => Ordered item ∧ OrderedItems rest

def OrderedFields : List (String × Json) → Prop
  | [] => True
  | (_, value) :: rest => Ordered value ∧ OrderedFields rest

end

theorem orderedFields_iff (fields : Fields) :
    OrderedFields fields ↔ ∀ entry ∈ fields, Ordered entry.2 := by
  induction fields with
  | nil => simp [OrderedFields]
  | cons entry rest ih => simp [OrderedFields, ih]

namespace Ordered

variable {fields : Fields}

theorem sorted (h : (object fields).Ordered) : fields.Sorted := by
  rw [Ordered] at h
  exact h.1

theorem of_mem (h : (object fields).Ordered) {key : String} {value : Json}
    (hmem : (key, value) ∈ fields) : value.Ordered := by
  rw [Ordered] at h
  exact (orderedFields_iff fields).mp h.2 _ hmem

theorem of_get? (h : (object fields).Ordered) {key : String} {value : Json}
    (hget : fields.get? key = some value) : value.Ordered :=
  h.of_mem (Table.mem_of_get? hget)

theorem restrict (h : (object fields).Ordered) (p : String → Bool) :
    (object (fields.restrict p)).Ordered := by
  rw [Ordered]
  refine ⟨Table.sorted_restrict p h.sorted, (orderedFields_iff _).mpr ?_⟩
  intro entry hentry
  exact h.of_mem (List.mem_of_mem_filter hentry)

end Ordered

theorem mergeOver_of_ne_object {value : Json} (h : ∀ upper, value ≠ .object upper)
    (base : Option Json) : mergeOver base value = value := by
  cases value with
  | object upper => exact absurd rfl (h upper)
  | _ => simp [mergeOver]

@[simp] theorem mergeOver_object_object (fields upper : Fields) :
    mergeOver (some (.object fields)) (.object upper) = .object (fields.merge upper) := by
  simp [mergeOver]

theorem mergeOver_of_base_ne_object {base : Option Json}
    (h : ∀ fields, base ≠ some (.object fields)) (value : Json) : mergeOver base value = value := by
  cases value with
  | object upper =>
    rw [mergeOver]
    intro fields heq
    exact h fields heq
  | _ => simp [mergeOver]

theorem mergeOver_none (value : Json) : mergeOver none value = value :=
  mergeOver_of_base_ne_object (by simp) value

theorem exists_mergeOver_object (base : Option Json) (upper : Fields) :
    ∃ fields, mergeOver base (.object upper) = .object fields := by
  by_cases hbase : ∃ fields, base = some (.object fields)
  · obtain ⟨fields, rfl⟩ := hbase
    exact ⟨_, mergeOver_object_object fields upper⟩
  · exact ⟨upper, mergeOver_of_base_ne_object (fun fields heq => hbase ⟨fields, heq⟩) _⟩

end Json

namespace Fields

theorem merge_cons (base : Fields) (key : String) (value : Json) (rest : Fields) :
    base.merge ((key, value) :: rest) =
      Fields.merge (base.insert key (Json.mergeOver (base.get? key) value)) rest := by
  rw [Fields.merge]

theorem sorted_merge {base : Fields} (h : base.Sorted) (upper : Fields) :
    (base.merge upper).Sorted := by
  induction upper generalizing base with
  | nil => simpa using h
  | cons entry rest ih =>
    rw [merge_cons]
    exact ih (Table.sorted_insert _ _ h)

/-- What stands under a key is laid over what stood there. -/
theorem get?_merge (base : Fields) {upper : Fields} (h : upper.Sorted) (key : String) :
    (base.merge upper).get? key =
      match upper.get? key with
      | none => base.get? key
      | some value => some (Json.mergeOver (base.get? key) value) := by
  induction upper generalizing base with
  | nil => simp
  | cons entry rest ih =>
    obtain ⟨k, v⟩ := entry
    have hfresh : Table.get? k rest = none := Table.get?_tail h
    rw [merge_cons, ih _ (List.pairwise_cons.mp h).2]
    by_cases hk : k = key
    · subst hk
      simp [hfresh, Table.get?, Table.get?_insert_self]
    · rw [Table.get?_cons_of_ne hk, Table.get?_insert_of_ne (Ne.symm hk)]

theorem get?_merge_of_none (base : Fields) {upper : Fields} (h : upper.Sorted) {key : String}
    (hkey : upper.get? key = none) : (base.merge upper).get? key = base.get? key := by
  rw [get?_merge base h, hkey]

theorem get?_merge_of_some (base : Fields) {upper : Fields} (h : upper.Sorted) {key : String}
    {value : Json} (hkey : upper.get? key = some value) :
    (base.merge upper).get? key = some (Json.mergeOver (base.get? key) value) := by
  rw [get?_merge base h, hkey]

theorem restrict_merge (p : String → Bool) {base upper : Fields} (hbase : base.Sorted)
    (hupper : upper.Sorted) :
    Table.restrict p (base.merge upper) = Fields.merge (base.restrict p) (upper.restrict p) := by
  refine Table.Sorted.ext (Table.sorted_restrict p (sorted_merge hbase upper))
    (sorted_merge (Table.sorted_restrict p hbase) _) ?_
  intro key
  rw [Table.get?_restrict, get?_merge base hupper,
    get?_merge _ (Table.sorted_restrict p hupper), Table.get?_restrict, Table.get?_restrict]
  by_cases hp : p key <;> simp [hp]

theorem erase_merge (key : String) {base upper : Fields} (hbase : base.Sorted)
    (hupper : upper.Sorted) :
    Table.erase key (base.merge upper) = Fields.merge (base.erase key) (upper.erase key) := by
  simpa only [Table.erase_eq_restrict] using restrict_merge (· != key) hbase hupper

theorem merge_nil_left {options : Fields} (h : options.Sorted) : merge [] options = options := by
  refine Table.Sorted.ext (sorted_merge Table.sorted_nil options) h fun key => ?_
  rw [get?_merge [] h, Table.get?_nil]
  cases hkey : Table.get? key options with
  | none => rfl
  | some value => simp [Json.mergeOver_none]

theorem exists_get?_merge {base options : Fields} (h : options.Sorted) {key : String}
    {written : Json} (hget : Table.get? key base = some written) :
    ∃ merged, Table.get? key (base.merge options) = some merged := by
  rw [get?_merge base h, hget]
  split <;> exact ⟨_, rfl⟩

theorem merge_singleton (name : String) (below setting : Json) :
    merge [(name, below)] [(name, setting)] = [(name, Json.mergeOver (some below) setting)] := by
  simp [merge_cons, Table.insert, Table.get?]

theorem eq_singleton_of_merge {base : Fields} (hbase : base.Sorted) (hne : base ≠ [])
    {name key : String} {setting written : Json}
    (h : base.merge [(name, setting)] = [(key, written)]) : ∃ below, base = [(name, below)] := by
  have hoptions : Table.Sorted [(name, setting)] := List.pairwise_singleton _ _
  have hname := get?_merge_of_some base hoptions (Table.get?_cons_self name setting [])
  rw [h] at hname
  obtain rfl := Table.eq_of_get?_singleton hname
  have hkeys : ∀ entry ∈ base, entry.1 = name := by
    intro entry hmem
    obtain ⟨merged, hmerged⟩ := exists_get?_merge hoptions (Table.get?_of_mem hbase hmem)
    rw [h] at hmerged
    exact Table.eq_of_get?_singleton hmerged
  obtain ⟨⟨other, below⟩, rest, rfl⟩ := List.exists_cons_of_ne_nil hne
  obtain rfl : other = name := hkeys _ List.mem_cons_self
  exact ⟨below, Table.eq_singleton_of_keys hbase hkeys (Table.get?_cons_self _ _ _)⟩

end Fields

/-! ### Along a path of keys -/

/-- What stands at the end of a path of keys. -/
def Json.at? : Json → List String → Option Json
  | value, [] => some value
  | .object fields, key :: path => (Table.get? key fields).bind fun value => value.at? path
  | _, _ :: _ => none

/-- Whether a table has nothing on the way along a path but objects, and one of them has nothing
where the path goes on. -/
def Fields.Spares : Fields → List String → Prop
  | _, [] => False
  | fields, key :: path =>
    match Table.get? key fields with
    | none => True
    | some (.object inner) => Spares inner path
    | some _ => False

namespace Fields

theorem at?_of_spares {fields : Fields} {path : List String} (h : fields.Spares path) :
    (Json.object fields).at? path = none := by
  induction path generalizing fields with
  | nil => exact h.elim
  | cons key path ih =>
    rw [Spares] at h
    rw [Json.at?]
    rcases hget : Table.get? key fields with _ | value
    · rfl
    · cases value with
      | object inner =>
        rw [hget] at h
        exact ih h
      | _ =>
        rw [hget] at h
        exact h.elim

/-- What a table spares stays as it was when the table is merged. -/
theorem at?_merge_of_spares (base : Fields) {upper : Fields} (hupper : (Json.object upper).Ordered)
    {path : List String} (h : upper.Spares path) :
    (Json.object (base.merge upper)).at? path = (Json.object base).at? path := by
  induction path generalizing base upper with
  | nil => exact h.elim
  | cons key path ih =>
    rw [Spares] at h
    rw [Json.at?, Json.at?, get?_merge base hupper.sorted]
    rcases hget : Table.get? key upper with _ | value
    · rfl
    cases value with
    | object inner =>
      rw [hget] at h
      change (Json.mergeOver (Table.get? key base) (.object inner)).at? path = _
      rcases hbase : Table.get? key base with _ | below
      · rw [Json.mergeOver_none]
        exact at?_of_spares h
      cases below with
      | object fields =>
        rw [Json.mergeOver_object_object]
        exact ih fields (hupper.of_get? hget) h
      | _ =>
        rw [Json.mergeOver_of_base_ne_object (by simp), at?_of_spares h]
        cases path with
        | nil => exact h.elim
        | cons => rfl
    | _ =>
      rw [hget] at h
      exact h.elim

end Fields

end FilterGateway
