import FilterGateway.Proofs.Manager.History
import Mathlib.Data.List.Induction

/-!
# Generations

The generation of a manager counts the loads that published a chain, and the chain in force is what
the last of them built. All other calls leave it alone: loads that are rejected or end in a panic,
single filters, registrations.
-/

namespace FilterGateway

namespace Session

variable {σ C : Type}

@[simp] theorem policy_perform (s : Session σ C) (op : Operation σ C) :
    (s.perform op).2.manager.policy = s.manager.policy := by
  cases op with
  | register name plugin => rfl
  | apply name options => rfl
  | load ds => exact (s.manager.load_frame ds s.world).2

@[simp] theorem policy_finish (s : Session σ C) (ops : List (Operation σ C)) :
    (s.finish ops).manager.policy = s.manager.policy := by
  induction ops generalizing s with
  | nil => rfl
  | cons op ops ih => simp [ih]

theorem generation_finish (s : Session σ C) (ops : List (Operation σ C)) :
    let reports := (s.history ops).filterMap Moment.report?
    (s.finish ops).manager.active.generation = s.manager.active.generation + reports.length ∧
      reports.map LoadReport.generation =
        List.range' (s.manager.active.generation + 1) reports.length := by
  induction ops using List.reverseRecOn with
  | nil => simp
  | append_singleton ops op ih =>
    obtain ⟨hgeneration, hreports⟩ := ih
    -- The last call finds the chain that all calls before it have left.
    rcases (s.finish ops).moment_cases op with ⟨hnone, hactive⟩ | ⟨b, _, hreport, hactive⟩
    · simp [List.filterMap_append, hnone, hactive, hgeneration, hreports]
    · simp only [history_concat, finish_concat, List.filterMap_append, List.filterMap_cons, hreport,
        List.filterMap_nil, List.length_append, List.length_singleton, List.map_append,
        List.map_cons, List.map_nil, hactive, hgeneration, hreports, List.range'_concat]
      constructor
      · omega
      · congr 2
        omega

theorem active_finish (s : Session σ C) (ops : List (Operation σ C)) :
    match ((s.history ops).filter fun m => m.report?.isSome).getLast? with
    | none => (s.finish ops).manager.active = s.manager.active
    | some m => ∃ b, m.built? = some b ∧ (s.finish ops).manager.active.filters = b.filters := by
  induction ops using List.reverseRecOn with
  | nil => rfl
  | append_singleton ops op ih =>
    rcases (s.finish ops).moment_cases op with ⟨hnone, hactive⟩ | ⟨b, hb, hreport, hactive⟩
    · simpa [List.filter_append, hnone, hactive] using ih
    · simpa [List.filter_append, hreport, hactive] using ⟨b, hb, rfl⟩

end Session

namespace Manager

variable {σ C : Type} (m : Manager σ C)

/-- A load has no result exactly when a plugin panicked. Otherwise it succeeds under the policy that
skips, and under the policy that rejects it fails exactly when a descriptor failed. -/
theorem load_result (ds : List Descriptor) (w : World σ) :
    ((m.load ds w).1 = none ↔ none ∈ m.registry.attempts 0 ds w) ∧
    ((m.load ds w).1 ≠ none → m.policy = .skip →
      ∃ report, (m.load ds w).1 = some (.ok report)) ∧
    ((m.load ds w).1 ≠ none → m.policy = .reject →
      ((∃ e, (m.load ds w).1 = some (.error e)) ↔
        ∃ error, some (.error error) ∈ m.registry.attempts 0 ds w)) := by
  have hpanic : (m.registry.build ds w).1 = none ↔ none ∈ m.registry.attempts 0 ds w :=
    m.registry.buildFrom_eq_none_iff 0 ds w
  have hfailed : ∀ b, (m.registry.build ds w).1 = some b →
      (b.failures ≠ [] ↔ ∃ error, some (.error error) ∈ m.registry.attempts 0 ds w) := by
    intro b hb
    simp [m.registry.failures_eq_nil_iff hb]
  rcases m.load_cases ds w with ⟨hb, hresult, _⟩ | ⟨b, hb, hrejects, hresult, _⟩ |
    ⟨b, hb, hrejects, hresult, _⟩
  · rw [← hpanic]
    simp [hb, hresult]
  · have hfailures := hfailed b hb
    obtain ⟨hne, hpolicy⟩ := (m.rejects_iff b).mp hrejects
    rw [← hpanic, ← hfailures]
    simp [hb, hresult, hne, hpolicy]
  · have hfailures := hfailed b hb
    have hkept : m.policy = .reject → b.failures = [] := by
      intro hpolicy
      by_contra hne
      rw [(m.rejects_iff b).mpr ⟨hne, hpolicy⟩] at hrejects
      exact Bool.noConfusion hrejects
    rw [← hpanic, ← hfailures]
    refine ⟨by simp [hb, hresult], by simp [hresult], ?_⟩
    intro _ hpolicy
    simp [hresult, hkept hpolicy]

end Manager

namespace Session

variable {σ C : Type}

/-- In every history of a new manager the generation counts the loads that published a chain, which
report the generations 1, 2, 3 and so on; the chain in force is what the last of them built, and
every other call leaves it as it was. Whether a load publishes depends on the policy and on what
became of its descriptors. -/
theorem active_of_history (registry : Registry σ C) (policy : ReloadPolicy) (world : World σ)
    (ops : List (Operation σ C)) :
    let s := (initial registry policy world).finish ops
    let moments := (initial registry policy world).history ops
    let reports := moments.filterMap Moment.report?
    s.manager.generation = reports.length ∧
    reports.map LoadReport.generation = List.range' 1 reports.length ∧
    (reports = [] → s.manager.active = {}) ∧
    (∀ m, (moments.filter fun m => m.report?.isSome).getLast? = some m →
      ∃ b, m.built? = some b ∧ s.manager.active = ⟨reports.length, b.filters⟩) ∧
    (∀ m ∈ moments, m.report? = none →
      m.after.manager.active = m.before.manager.active) ∧
    (∀ m ∈ moments, ∀ ds, m.operation = .load ds →
      (m.answer = .loaded none ↔ none ∈ m.attempts) ∧
      (m.answer ≠ .loaded none → policy = .skip →
        ∃ report, m.answer = .loaded (some (.ok report))) ∧
      (m.answer ≠ .loaded none → policy = .reject →
        ((∃ e, m.answer = .loaded (some (.error e))) ↔
          ∃ error, some (.error error) ∈ m.attempts))) := by
  intro s moments reports
  obtain ⟨hgeneration, hreports⟩ := (initial registry policy world).generation_finish ops
  have hactive := (initial registry policy world).active_finish ops
  have hzero : (initial registry policy world).manager.active.generation = 0 := rfl
  rw [hzero, Nat.zero_add] at hgeneration hreports
  refine ⟨hgeneration, hreports, ?_, ?_, ?_, ?_⟩
  · intro hnil
    have hnone : moments.filter (fun m => m.report?.isSome) = [] := by
      rw [List.filter_eq_nil_iff]
      intro m hm hsome
      obtain ⟨report, hreport⟩ := Option.isSome_iff_exists.mp hsome
      have hmem : report ∈ reports := List.mem_filterMap.mpr ⟨m, hm, hreport⟩
      rw [hnil] at hmem
      exact List.not_mem_nil hmem
    rw [hnone] at hactive
    exact hactive
  · intro m hm
    rw [hm] at hactive
    obtain ⟨b, hb, hfilters⟩ := hactive
    refine ⟨b, hb, ?_⟩
    rw [← hgeneration, ← hfilters]
  · intro m hm hnone
    obtain ⟨earlier, op, later, _, rfl⟩ := mem_history_iff.mp hm
    rcases ((initial registry policy world).finish earlier).moment_cases op with
      ⟨_, hkept⟩ | ⟨b, _, hreport, _⟩
    · exact hkept
    · rw [hreport] at hnone
      exact absurd hnone (Option.some_ne_none _)
  · intro m hm ds hload
    obtain ⟨earlier, op, later, _, rfl⟩ := mem_history_iff.mp hm
    obtain rfl : op = .load ds := hload
    have hpolicy : ((initial registry policy world).finish earlier).manager.policy = policy := by
      rw [policy_finish]
      rfl
    simpa only [moment, perform, Moment.attempts, Answer.loaded.injEq, ne_eq, hpolicy] using
      ((initial registry policy world).finish earlier).manager.load_result ds _

end Session

end FilterGateway
