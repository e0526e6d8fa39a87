import FilterGateway.Filter.Manager
import FilterGateway.Proofs.Build.Attempts

/-!
# What a load does to the chain

A load has one of three outcomes: a plugin panics, or the load is rejected, or it publishes what was
built. Only the last one changes the manager, and then only the chain in force.
-/

namespace FilterGateway

namespace Manager

variable {σ C : Type} (m : Manager σ C)

@[simp] theorem registry_publish (filters : List (LoadedFilter C)) :
    (m.publish filters).registry = m.registry := rfl

@[simp] theorem policy_publish (filters : List (LoadedFilter C)) :
    (m.publish filters).policy = m.policy := rfl

@[simp] theorem active_publish (filters : List (LoadedFilter C)) :
    (m.publish filters).active = ⟨m.active.generation + 1, filters⟩ := rfl

theorem rejects_iff (b : Built C) : m.rejects b = true ↔ b.failures ≠ [] ∧ m.policy = .reject := by
  cases hp : m.policy <;> simp [rejects, Built.isComplete, hp]

theorem rejects_of_complete {b : Built C} (h : b.failures = []) : m.rejects b = false := by
  simp [rejects, Built.isComplete, h]

section Outcomes

variable {m} {ds : List Descriptor} {w : World σ} {b : Built C}

theorem load_of_panic (h : (m.registry.build ds w).1 = none) :
    (m.load ds w).1 = none ∧ (m.load ds w).2.1 = m := by
  rcases hbuild : m.registry.build ds w with ⟨built, w'⟩
  obtain rfl : built = none := by rw [← h, hbuild]
  simp [load, hbuild]

theorem load_of_rejects (hb : (m.registry.build ds w).1 = some b) (hrejects : m.rejects b = true) :
    (m.load ds w).1 = some (.error ⟨ds.length, b.failures⟩) ∧ (m.load ds w).2.1 = m := by
  rcases hbuild : m.registry.build ds w with ⟨built, w'⟩
  obtain rfl : built = some b := by rw [← hb, hbuild]
  simp [load, hbuild, settle, hrejects]

theorem load_of_kept (hb : (m.registry.build ds w).1 = some b) (hkept : m.rejects b = false) :
    (m.load ds w).1 = some (.ok ⟨m.active.generation + 1, b.filters.length, b.failures⟩) ∧
      (m.load ds w).2.1 = m.publish b.filters := by
  rcases hbuild : m.registry.build ds w with ⟨built, w'⟩
  obtain rfl : built = some b := by rw [← hb, hbuild]
  simp [load, hbuild, settle, hkept, generation]

end Outcomes

/-- The three outcomes of a load, with what it returns and the manager that it leaves. -/
theorem load_cases (ds : List Descriptor) (w : World σ) :
    ((m.registry.build ds w).1 = none ∧ (m.load ds w).1 = none ∧ (m.load ds w).2.1 = m) ∨
    (∃ b, (m.registry.build ds w).1 = some b ∧ m.rejects b = true ∧
      (m.load ds w).1 = some (.error ⟨ds.length, b.failures⟩) ∧ (m.load ds w).2.1 = m) ∨
    (∃ b, (m.registry.build ds w).1 = some b ∧ m.rejects b = false ∧
      (m.load ds w).1 =
        some (.ok ⟨m.active.generation + 1, b.filters.length, b.failures⟩) ∧
      (m.load ds w).2.1 = m.publish b.filters) := by
  rcases hb : (m.registry.build ds w).1 with _ | b
  · exact Or.inl ⟨rfl, load_of_panic hb⟩
  · cases hrejects : m.rejects b with
    | true => exact Or.inr (Or.inl ⟨b, rfl, hrejects, load_of_rejects hb hrejects⟩)
    | false => exact Or.inr (Or.inr ⟨b, rfl, hrejects, load_of_kept hb hrejects⟩)

theorem load_frame (ds : List Descriptor) (w : World σ) :
    (m.load ds w).2.1.registry = m.registry ∧ (m.load ds w).2.1.policy = m.policy := by
  rcases m.load_cases ds w with ⟨_, _, h⟩ | ⟨b, _, _, _, h⟩ | ⟨b, _, _, _, h⟩ <;> simp [h]

theorem load_world (ds : List Descriptor) (w : World σ) :
    (m.load ds w).2.2.plugins = (m.registry.build ds w).2.plugins ∧
      (m.load ds w).2.2.created = (m.registry.build ds w).2.created := by
  rcases hbuild : m.registry.build ds w with ⟨_ | b, w'⟩
  · simp [load, hbuild]
  · cases hrejects : m.rejects b <;> cases hcomplete : b.isComplete <;>
      simp [load, hbuild, settle, hrejects, hcomplete]

end Manager

end FilterGateway
