/-!
# Tables

A table assigns values to texts. Its entries stand in increasing order of their keys, so two tables
with the same assignments are equal. The main statements say what insertion does to a look-up and
that it keeps the order.
-/

namespace FilterGateway

/-- The entries of a table. -/
abbrev Table (α : Type) := List (String × α)

namespace Table

variable {α : Type}

/-- The value under `key`. -/
def get? (key : String) : Table α → Option α
  | [] => none
  | (k, v) :: rest => if k = key then some v else get? key rest

/-- The value under `key` becomes `value`; a new key goes before the first larger one. -/
def insert (key : String) (value : α) : Table α → Table α
  | [] => [(key, value)]
  | (k, v) :: rest =>
    if key = k then (key, value) :: rest
    else if key < k then (key, value) :: (k, v) :: rest
    else (k, v) :: insert key value rest

/-- The entries under other keys. -/
def erase (key : String) (t : Table α) : Table α :=
  t.filter fun entry => entry.1 != key

/-- The table given by `entries`, of which the last one under a key counts. -/
def ofList (entries : List (String × α)) : Table α :=
  entries.foldl (fun t entry => t.insert entry.1 entry.2) []

def keys (t : Table α) : List String :=
  t.map (·.1)

/-- The table with `f key value` in the place of each value. -/
def mapValues {β : Type} (f : String → α → β) (t : Table α) : Table β :=
  t.map fun entry => (entry.1, f entry.1 entry.2)

/-- The keys strictly increase. -/
def Sorted (t : Table α) : Prop :=
  t.Pairwise fun a b => a.1 < b.1

theorem sorted_nil : Sorted ([] : Table α) :=
  List.Pairwise.nil

@[simp] theorem get?_nil (key : String) : get? key ([] : Table α) = none := rfl

theorem get?_insert_self (key : String) (value : α) (t : Table α) :
    (t.insert key value).get? key = some value := by
  induction t with
  | nil => simp [insert, get?]
  | cons entry rest ih =>
    obtain ⟨k, v⟩ := entry
    by_cases h : key = k
    · simp [insert, get?, h]
    · by_cases hlt : key < k
      · simp [insert, get?, h, hlt]
      · simp [insert, get?, h, hlt, Ne.symm h, ih]

theorem get?_insert_of_ne {key other : String} (h : other ≠ key) (value : α) (t : Table α) :
    (t.insert key value).get? other = t.get? other := by
  induction t with
  | nil => simp [insert, get?, Ne.symm h]
  | cons entry rest ih =>
    obtain ⟨k, v⟩ := entry
    by_cases hk : key = k
    · subst hk
      simp [insert, get?, Ne.symm h]
    · by_cases hlt : key < k
      · simp [insert, get?, hk, hlt, Ne.symm h]
      · simp [insert, get?, hk, hlt, ih]

/-- Insertion changes what stands under its key and nothing else. -/
theorem get?_insert (key other : String) (value : α) (t : Table α) :
    (t.insert key value).get? other = if other = key then some value else t.get? other := by
  by_cases h : other = key
  · subst h
    simp [get?_insert_self]
  · simp [h, get?_insert_of_ne h]

/-- Something stands under a key exactly when the key is listed. -/
theorem isSome_get?_iff (key : String) (t : Table α) :
    (t.get? key).isSome = true ↔ key ∈ t.keys := by
  induction t with
  | nil => simp [keys]
  | cons entry rest ih =>
    obtain ⟨k, v⟩ := entry
    by_cases h : k = key
    · simp [get?, keys, h]
    · have hne : key ≠ k := Ne.symm h
      simpa [get?, keys, h, hne] using ih

theorem mem_insert {key : String} {value : α} {t : Table α} {entry : String × α}
    (h : entry ∈ t.insert key value) : entry = (key, value) ∨ entry ∈ t := by
  induction t with
  | nil => simpa [insert] using h
  | cons head rest ih =>
    obtain ⟨k, v⟩ := head
    by_cases hk : key = k
    · simp only [insert, hk, if_true, List.mem_cons] at h ⊢
      exact h.imp id Or.inr
    · by_cases hlt : key < k
      · simpa only [insert, hk, hlt, if_true, if_false, List.mem_cons] using h
      · simp only [insert, hk, hlt, if_false, List.mem_cons] at h ⊢
        rcases h with h | h
        · exact Or.inr (Or.inl h)
        · exact (ih h).imp id Or.inr

theorem sorted_insert (key : String) (value : α) {t : Table α} (h : t.Sorted) :
    (t.insert key value).Sorted := by
  induction t with
  | nil => simp [insert, Sorted]
  | cons head rest ih =>
    obtain ⟨k, v⟩ := head
    obtain ⟨hhead, hrest⟩ := List.pairwise_cons.mp h
    by_cases hk : key = k
    · subst hk
      simp only [insert, if_true]
      exact List.pairwise_cons.mpr ⟨hhead, hrest⟩
    · by_cases hlt : key < k
      · simp only [insert, hk, hlt, if_true, if_false]
        refine List.pairwise_cons.mpr ⟨fun entry hentry => ?_, h⟩
        rcases List.mem_cons.mp hentry with rfl | hentry
        · exact hlt
        · exact String.lt_trans hlt (hhead entry hentry)
      · simp only [insert, hk, hlt, if_false]
        refine List.pairwise_cons.mpr ⟨fun entry hentry => ?_, ih hrest⟩
        rcases mem_insert hentry with rfl | hentry
        · exact Std.lt_of_le_of_ne (Std.not_lt.mp hlt) (Ne.symm hk)
        · exact hhead entry hentry

theorem sorted_mapValues {β : Type} (f : String → α → β) {t : Table α} (h : t.Sorted) :
    (t.mapValues f).Sorted :=
  List.Pairwise.map _ (fun _ _ hlt => hlt) h

theorem get?_mapValues {β : Type} (f : String → α → β) (key : String) (t : Table α) :
    (t.mapValues f).get? key = (t.get? key).map (f key) := by
  induction t with
  | nil => rfl
  | cons entry rest ih =>
    obtain ⟨k, v⟩ := entry
    by_cases h : k = key
    · subst h
      simp [mapValues, get?]
    · simpa [mapValues, get?, h] using ih

theorem mapValues_insert {β : Type} (f : String → α → β) (key : String) (value : α) (t : Table α) :
    (t.insert key value).mapValues f = (t.mapValues f).insert key (f key value) := by
  induction t with
  | nil => rfl
  | cons entry rest ih =>
    obtain ⟨k, v⟩ := entry
    by_cases h : key = k
    · simp [mapValues, insert, h]
    · by_cases hlt : key < k
      · simp [mapValues, insert, h, hlt]
      · simpa [mapValues, insert, h, hlt] using ih

/-- The keys of a table in order are listed in strictly increasing order. -/
theorem pairwise_keys {t : Table α} (h : t.Sorted) : t.keys.Pairwise (· < ·) :=
  List.pairwise_map.mpr h

end Table

end FilterGateway
