import FilterGateway.Filter.Plugin
import FilterGateway.Table
import FilterGateway.Text.Blank

/-!
# Registries

A registry holds plugins under unique names that are not blank. A plugin stays under the name it was
first registered under; its names are listed in increasing order.
-/

namespace FilterGateway

/-- Plugins by name. -/
structure Registry (σ C : Type) where
  plugins : Table (Plugin σ C)
  sorted : plugins.Sorted
  named : ∀ entry ∈ plugins, Text.isBlank entry.1 = false

namespace Registry

variable {σ C : Type}

def empty : Registry σ C where
  plugins := []
  sorted := Table.sorted_nil
  named _ h := nomatch h

/-- The registry with `plugin` under `name`. -/
def register (r : Registry σ C) (name : String) (plugin : Plugin σ C) :
    Except RegistryError (Registry σ C) :=
  if blank : Text.isBlank name = true then .error .emptyName
  else if (r.plugins.get? name).isSome then .error (.duplicate name)
  else
    .ok {
      plugins := r.plugins.insert name plugin
      sorted := Table.sorted_insert name plugin r.sorted
      named := fun entry h =>
        match Table.mem_insert h with
        | .inl eq => by rw [eq]; simpa using blank
        | .inr mem => r.named entry mem }

/-- The plugin under a name. -/
def resolve (r : Registry σ C) (name : String) : Except FilterError (Plugin σ C) :=
  match r.plugins.get? name with
  | some plugin => .ok plugin
  | none => .error (.pluginNotFound name)

def contains (r : Registry σ C) (name : String) : Bool :=
  (r.plugins.get? name).isSome

def names (r : Registry σ C) : List String :=
  r.plugins.keys

def size (r : Registry σ C) : Nat :=
  r.plugins.length

def isEmpty (r : Registry σ C) : Bool :=
  r.plugins.isEmpty

theorem contains_iff (r : Registry σ C) (name : String) :
    r.contains name = true ↔ name ∈ r.names :=
  Table.isSome_get?_iff name r.plugins

/-- A name that is blank has no plugin. -/
theorem get?_eq_none_of_isBlank (r : Registry σ C) {name : String}
    (blank : Text.isBlank name = true) : r.plugins.get? name = none := by
  cases found : r.plugins.get? name with
  | none => rfl
  | some plugin =>
    have listed : name ∈ r.names := (contains_iff r name).mp (by simp [contains, found])
    obtain ⟨entry, mem, rfl⟩ := List.mem_map.mp listed
    exact absurd blank (by simp [r.named entry mem])

/-- A registry as a term. -/
def term (r : Registry σ C) : String :=
  "PluginRegistry \x7b plugins: " ++ Text.quoteList r.names ++ " \x7d"

/-- Registration with its event. The registry stays as it is when it fails. -/
def enter (r : Registry σ C) (name : String) (plugin : Plugin σ C) (w : World σ) :
    Except RegistryError Unit × Registry σ C × World σ :=
  match r.register name plugin with
  | .ok r => (.ok (), r, w.log (.pluginRegistered name))
  | .error e => (.error e, r, w)

end Registry

end FilterGateway
