import FilterGateway.Filter.Registry
import FilterGateway.Proofs.Text.ByteOrder
import Mathlib.Data.List.Perm.Basic

/-!
# Registration

A call of registration is refused, and then nothing changes, or it enters a name that is neither
blank nor taken. So after any sequence of calls a name stands for the plugin that it was first
registered with, and the names are those of the calls that succeeded, each listed once and all of
them in the order of their bytes.
-/

namespace FilterGateway

namespace Table

variable {α : Type}

theorem keys_insert_perm {key : String} (value : α) {t : Table α} (h : key ∉ t.keys) :
    (t.insert key value).keys.Perm (key :: t.keys) := by
  induction t with
  | nil => exact List.Perm.refl _
  | cons entry rest ih =>
    obtain ⟨k, v⟩ := entry
    obtain ⟨hne, hrest⟩ : key ≠ k ∧ key ∉ keys rest := by simpa [keys] using h
    by_cases hlt : key < k
    · simp [insert, hne, hlt, keys]
    · rw [insert, if_neg hne, if_neg hlt]
      exact ((ih hrest).cons k).trans (List.Perm.swap key k _)

end Table

namespace Registry

variable {σ C : Type}

/-- The registry and the world that calls of registration leave, one after the other. -/
def enterAll (r : Registry σ C) (w : World σ) :
    List (String × Plugin σ C) → Registry σ C × World σ
  | [] => (r, w)
  | (name, plugin) :: calls =>
    let (_, r, w) := r.enter name plugin w
    enterAll r w calls

/-- The names of those calls that succeed. -/
def accepted (r : Registry σ C) (w : World σ) : List (String × Plugin σ C) → List String
  | [] => []
  | (name, plugin) :: calls =>
    match r.enter name plugin w with
    | (.ok _, r, w) => name :: accepted r w calls
    | (.error _, r, w) => accepted r w calls

/-- The plugin of the first call with a name, unless the name is blank. -/
def firstNamed (calls : List (String × Plugin σ C)) (name : String) : Option (Plugin σ C) :=
  if Text.isBlank name then none else calls.lookup name

/-! ### One call -/

/-- A registration is refused for a blank name, then for one that is taken; any other name gets the
plugin. -/
theorem register_cases (r : Registry σ C) (name : String) (plugin : Plugin σ C) :
    (Text.isBlank name = true ∧ r.register name plugin = .error .emptyName) ∨
    (Text.isBlank name = false ∧ name ∈ r.names ∧
      r.register name plugin = .error (.duplicate name)) ∨
    (Text.isBlank name = false ∧ name ∉ r.names ∧
      ∃ next : Registry σ C, next.plugins = r.plugins.insert name plugin ∧
        r.register name plugin = .ok next) := by
  rw [← contains_iff, contains]
  cases hblank : Text.isBlank name with
  | true =>
    left
    exact ⟨rfl, by simp [register, hblank]⟩
  | false =>
    right
    by_cases htaken : (r.plugins.get? name).isSome = true
    · left
      exact ⟨rfl, htaken, by simp [register, hblank, htaken]⟩
    · right
      refine ⟨rfl, htaken, ?_⟩
      rw [register, dif_neg (by simp [hblank]), if_neg htaken]
      exact ⟨_, rfl, rfl⟩

theorem resolve_register {r r' : Registry σ C} {name : String} {plugin : Plugin σ C}
    (h : r.register name plugin = .ok r') (other : String) :
    r'.resolve other = if other = name then .ok plugin else r.resolve other := by
  rcases r.register_cases name plugin with
    ⟨-, hregister⟩ | ⟨-, -, hregister⟩ | ⟨-, -, next, hnext, hregister⟩ <;>
    rw [hregister] at h
  · cases h
  · cases h
  · obtain rfl := Except.ok.inj h
    rw [resolve, hnext, Table.get?_insert]
    by_cases hname : other = name
    · rw [if_pos hname, if_pos hname]
    · rw [if_neg hname, if_neg hname, resolve]

theorem enter_cases (r : Registry σ C) (name : String) (plugin : Plugin σ C) (w : World σ) :
    (Text.isBlank name = true ∧ r.enter name plugin w = (.error .emptyName, r, w)) ∨
    (Text.isBlank name = false ∧ name ∈ r.names ∧
      r.enter name plugin w = (.error (.duplicate name), r, w)) ∨
    (Text.isBlank name = false ∧ name ∉ r.names ∧
      ∃ next : Registry σ C, next.plugins = r.plugins.insert name plugin ∧
        r.enter name plugin w = (.ok (), next, w.log (.pluginRegistered name))) := by
  rcases r.register_cases name plugin with
    ⟨hblank, hregister⟩ | ⟨hblank, htaken, hregister⟩ | ⟨hblank, hnew, next, hnext, hregister⟩
  · exact Or.inl ⟨hblank, by rw [enter, hregister]⟩
  · exact Or.inr (Or.inl ⟨hblank, htaken, by rw [enter, hregister]⟩)
  · exact Or.inr (Or.inr ⟨hblank, hnew, next, hnext, by rw [enter, hregister]⟩)

theorem firstNamed_singleton (name : String) (plugin : Plugin σ C) (other : String) :
    firstNamed [(name, plugin)] other =
      if other = name ∧ Text.isBlank name = false then some plugin else none := by
  by_cases hname : other = name
  · subst hname
    cases hblank : Text.isBlank other <;> simp [firstNamed, hblank]
  · have hbeq : (other == name) = false := beq_false_of_ne hname
    simp [firstNamed, List.lookup_cons, hbeq, hname]

theorem get?_enter (r : Registry σ C) (name : String) (plugin : Plugin σ C) (w : World σ)
    (other : String) :
    (r.enter name plugin w).2.1.plugins.get? other =
      (r.plugins.get? other).or (firstNamed [(name, plugin)] other) := by
  rw [firstNamed_singleton]
  rcases r.enter_cases name plugin w with
    ⟨hblank, henter⟩ | ⟨-, htaken, henter⟩ | ⟨hblank, hnew, next, hnext, henter⟩ <;>
    rw [henter]
  · simp [hblank]
  · rw [← contains_iff, contains] at htaken
    by_cases hname : other = name
    · rw [hname, Option.or_of_isSome htaken]
    · simp [hname]
  · rw [← contains_iff, contains, Option.not_isSome_iff_eq_none] at hnew
    rw [hnext, Table.get?_insert]
    by_cases hname : other = name
    · simp [hname, hnew, hblank]
    · simp [hname]

/-! ### A sequence of calls -/

@[simp] theorem enterAll_nil (r : Registry σ C) (w : World σ) : r.enterAll w [] = (r, w) := rfl

theorem enterAll_cons (r : Registry σ C) (w : World σ) (name : String) (plugin : Plugin σ C)
    (calls : List (String × Plugin σ C)) :
    r.enterAll w ((name, plugin) :: calls) =
      (r.enter name plugin w).2.1.enterAll (r.enter name plugin w).2.2 calls := rfl

theorem firstNamed_cons (call : String × Plugin σ C) (calls : List (String × Plugin σ C))
    (name : String) :
    firstNamed (call :: calls) name = (firstNamed [call] name).or (firstNamed calls name) := by
  rw [firstNamed, firstNamed, firstNamed]
  split
  · rfl
  · rw [← List.lookup_append, List.singleton_append]

/-- A name that has a plugin keeps it; the others get that of the first call. -/
theorem get?_enterAll (r : Registry σ C) (w : World σ) (calls : List (String × Plugin σ C))
    (name : String) :
    (r.enterAll w calls).1.plugins.get? name =
      (r.plugins.get? name).or (firstNamed calls name) := by
  induction calls generalizing r w with
  | nil => simp [firstNamed]
  | cons call calls ih =>
    obtain ⟨first, plugin⟩ := call
    rw [enterAll_cons, ih, get?_enter, Option.or_assoc, ← firstNamed_cons]

theorem resolve_enterAll (w : World σ) (calls : List (String × Plugin σ C)) (name : String) :
    ((empty : Registry σ C).enterAll w calls).1.resolve name =
      match firstNamed calls name with
      | some plugin => .ok plugin
      | none => .error (.pluginNotFound name) := by
  have hget : ((empty : Registry σ C).enterAll w calls).1.plugins.get? name =
      firstNamed calls name := by
    rw [get?_enterAll, empty, Table.get?_nil, Option.none_or]
  cases hfirst : firstNamed calls name with
  | none => simp [resolve, hget, hfirst]
  | some plugin => simp [resolve, hget, hfirst]

theorem names_enterAll_perm (r : Registry σ C) (w : World σ)
    (calls : List (String × Plugin σ C)) :
    (r.enterAll w calls).1.names.Perm (r.names ++ r.accepted w calls) := by
  induction calls generalizing r w with
  | nil => simp [accepted]
  | cons call calls ih =>
    obtain ⟨name, plugin⟩ := call
    rw [enterAll_cons, accepted]
    rcases r.enter_cases name plugin w with
      ⟨-, henter⟩ | ⟨-, -, henter⟩ | ⟨-, hnew, next, hnext, henter⟩ <;>
      rw [henter]
    · exact ih r w
    · exact ih r w
    · have hnames : next.names.Perm (name :: r.names) := by
        rw [names, hnext]
        exact Table.keys_insert_perm plugin hnew
      refine (ih next _).trans ((hnames.append_right _).trans ?_)
      exact List.perm_middle.symm

theorem world_enterAll (r : Registry σ C) (w : World σ) (calls : List (String × Plugin σ C)) :
    (r.enterAll w calls).2 =
      { w with events := w.events ++ (r.accepted w calls).map .pluginRegistered } := by
  induction calls generalizing r w with
  | nil => simp [accepted]
  | cons call calls ih =>
    obtain ⟨name, plugin⟩ := call
    rw [enterAll_cons, accepted]
    rcases r.enter_cases name plugin w with
      ⟨-, henter⟩ | ⟨-, -, henter⟩ | ⟨-, -, next, -, henter⟩ <;>
      rw [henter]
    · exact ih r w
    · exact ih r w
    · simp [ih, World.log]

theorem pairwise_names (r : Registry σ C) :
    r.names.Pairwise fun a b => Text.bytes a < Text.bytes b :=
  (Table.pairwise_keys r.sorted).imp Text.bytes_lt_bytes_iff.mpr

theorem nodup_names (r : Registry σ C) : r.names.Nodup :=
  (Table.pairwise_keys r.sorted).imp Std.ne_of_lt

/-- After any calls of registration: a further one succeeds exactly when its name is neither blank
nor that of a call that succeeded, and else it changes nothing and tells which of the two it was; a
name stands for the plugin of the first call with it, if it is not blank, and for nothing else; and
the names of the calls that succeeded are listed in the order of their bytes. -/
theorem registered_of_calls (w : World σ) (calls : List (String × Plugin σ C)) :
    let r := ((empty : Registry σ C).enterAll w calls).1
    let taken := (empty : Registry σ C).accepted w calls
    (∀ name plugin w',
      ((r.enter name plugin w').1 = .ok () ↔ Text.isBlank name = false ∧ name ∉ taken) ∧
      ((r.enter name plugin w').1 = .ok () ∨
        r.enter name plugin w' =
          (.error (if Text.isBlank name then .emptyName else .duplicate name), r, w'))) ∧
    (∀ name, r.resolve name =
      match firstNamed calls name with
      | some plugin => .ok plugin
      | none => .error (.pluginNotFound name)) ∧
    (∀ name, r.contains name = true ↔ ∃ plugin, r.resolve name = .ok plugin) ∧
    r.names.Perm taken ∧ r.names.Pairwise (fun a b => Text.bytes a < Text.bytes b) ∧
    r.names.Nodup ∧ r.size = taken.length := by
  intro r taken
  have hperm : r.names.Perm taken := names_enterAll_perm empty w calls
  refine ⟨fun name plugin w' => ?_, resolve_enterAll w calls, fun name => ?_, hperm,
    r.pairwise_names, r.nodup_names, ?_⟩
  · rw [← hperm.mem_iff]
    rcases r.enter_cases name plugin w' with
      ⟨hblank, henter⟩ | ⟨hblank, htaken, henter⟩ | ⟨hblank, hnew, next, -, henter⟩ <;>
      rw [henter]
    · simp [hblank]
    · simp [hblank, htaken]
    · simp [hblank, hnew]
  · rw [contains, resolve]
    cases r.plugins.get? name <;> simp
  · rw [← hperm.length_eq, names, Table.keys, List.length_map, size]

/-- The second plugin for a name is refused, and so is one for a blank name. -/
example (w : World σ) (p q : Plugin σ C) :
    (empty.enterAll w [("b", p), ("a", q), ("b", q), (" ", p)]).1.plugins = [("a", q), ("b", p)] :=
  rfl

end Registry

end FilterGateway
