import FilterGateway.Filter.Build

/-!
# Attempts of a build

A build attempts its descriptors in order until a plugin panics. What became of the attempts decides
what the build comes to: it has no result exactly when one of them panicked, and a result without
failures exactly when none of them failed.
-/

namespace FilterGateway

theorem none_notMem_of_all_isSome {α : Type} {results : List (Option α)}
    (h : results.all Option.isSome = true) : none ∉ results := by
  intro hnone
  exact Bool.noConfusion (List.all_eq_true.mp h none hnone)

namespace Registry

variable {σ C : Type} (r : Registry σ C)

/-- What became of each descriptor that a build attempts; the first one has the position `index`. -/
def attempts (index : Nat) :
    List Descriptor → World σ → List (Option (Except FilterError (Instance C)))
  | [], _ => []
  | d :: ds, w =>
    match r.apply d.name d.options w with
    | (none, _) => [none]
    | (some (.ok filter), w) => some (.ok filter) :: attempts (index + 1) ds w
    | (some (.error error), w) =>
      some (.error error) :: attempts (index + 1) ds (fail ⟨index, error⟩ w)

section Cons

variable {r} {index : Nat} {d : Descriptor} {ds : List Descriptor} {w w' : World σ}

theorem buildFrom_cons_panicked (h : r.apply d.name d.options w = (none, w')) :
    r.buildFrom index (d :: ds) w = (none, w') := by
  simp only [buildFrom, h]

theorem buildFrom_cons_ok {filter : Instance C}
    (h : r.apply d.name d.options w = (some (.ok filter), w')) :
    r.buildFrom index (d :: ds) w =
      ((r.buildFrom (index + 1) ds w').1.map
          fun b => { b with filters := ⟨d.name, filter⟩ :: b.filters },
        (r.buildFrom (index + 1) ds w').2) := by
  simp only [buildFrom, h]
  rcases r.buildFrom (index + 1) ds w' with ⟨_ | b, w''⟩ <;> rfl

theorem buildFrom_cons_error {error : FilterError}
    (h : r.apply d.name d.options w = (some (.error error), w')) :
    r.buildFrom index (d :: ds) w =
      ((r.buildFrom (index + 1) ds (fail ⟨index, error⟩ w')).1.map
          fun b => { b with failures := ⟨index, error⟩ :: b.failures },
        (r.buildFrom (index + 1) ds (fail ⟨index, error⟩ w')).2) := by
  simp only [buildFrom, h]
  rcases r.buildFrom (index + 1) ds (fail ⟨index, error⟩ w') with ⟨_ | b, w''⟩ <;> rfl

theorem buildFrom_cons_eq_some {b : Built C} (hb : (r.buildFrom index (d :: ds) w).1 = some b) :
    (∃ error w' b', r.apply d.name d.options w = (some (.error error), w') ∧
      (r.buildFrom (index + 1) ds (fail ⟨index, error⟩ w')).1 = some b' ∧
      b = { b' with failures := ⟨index, error⟩ :: b'.failures }) ∨
    ∃ filter w' b', r.apply d.name d.options w = (some (.ok filter), w') ∧
      (r.buildFrom (index + 1) ds w').1 = some b' ∧
      b = { b' with filters := ⟨d.name, filter⟩ :: b'.filters } := by
  rcases h : r.apply d.name d.options w with ⟨_ | (error | filter), w'⟩
  · rw [buildFrom_cons_panicked h] at hb
    cases hb
  · rw [buildFrom_cons_error h] at hb
    obtain ⟨b', hb', rfl⟩ := Option.map_eq_some_iff.mp hb
    exact Or.inl ⟨error, w', b', rfl, hb', rfl⟩
  · rw [buildFrom_cons_ok h] at hb
    obtain ⟨b', hb', rfl⟩ := Option.map_eq_some_iff.mp hb
    exact Or.inr ⟨filter, w', b', rfl, hb', rfl⟩

end Cons

theorem buildFrom_eq_none_iff (index : Nat) (ds : List Descriptor) (w : World σ) :
    (r.buildFrom index ds w).1 = none ↔ none ∈ r.attempts index ds w := by
  induction ds generalizing index w with
  | nil => simp [buildFrom, attempts]
  | cons d ds ih =>
    rcases h : r.apply d.name d.options w with ⟨_ | (error | filter), w'⟩
    · simp [buildFrom_cons_panicked h, attempts, h]
    · simp [buildFrom_cons_error h, attempts, h, ih]
    · simp [buildFrom_cons_ok h, attempts, h, ih]

theorem failures_eq_nil_iff {index : Nat} {ds : List Descriptor} {w : World σ} {b : Built C}
    (hb : (r.buildFrom index ds w).1 = some b) :
    b.failures = [] ↔ ∀ error, some (.error error) ∉ r.attempts index ds w := by
  induction ds generalizing index w b with
  | nil =>
    obtain rfl : {} = b := Option.some.inj hb
    simp [attempts]
  | cons d ds ih =>
    rcases buildFrom_cons_eq_some hb with ⟨error, w', b', h, _, rfl⟩ | ⟨filter, w', b', h, hb', rfl⟩
    · constructor
      · intro hnil
        exact absurd hnil (List.cons_ne_nil _ _)
      · intro hnone
        exact absurd (by simp [attempts, h]) (hnone error)
    · simpa [attempts, h] using ih hb'

/-- No descriptor is lost, and none is counted twice. -/
theorem length_built {index : Nat} {ds : List Descriptor} {w : World σ} {b : Built C}
    (hb : (r.buildFrom index ds w).1 = some b) :
    b.filters.length + b.failures.length = ds.length := by
  induction ds generalizing index w b with
  | nil =>
    obtain rfl : {} = b := Option.some.inj hb
    rfl
  | cons d ds ih =>
    rcases buildFrom_cons_eq_some hb with
      ⟨error, w', b', _, hb', rfl⟩ | ⟨filter, w', b', _, hb', rfl⟩
    · rw [List.length_cons, List.length_cons, ← ih hb', Nat.add_assoc]
    · rw [List.length_cons, List.length_cons, ← ih hb', Nat.add_right_comm]

end Registry

end FilterGateway
