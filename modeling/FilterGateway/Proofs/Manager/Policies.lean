import FilterGateway.Proofs.Build.Steady

/-!
# The two policies

The policies agree on what fails and differ in what they make of it. In a steady registry a load
that rejects fails with the failures that a load that skips passes over, and what the second one
publishes is what the first one publishes for the descriptors that can be built.
-/

namespace FilterGateway

variable {σ C : Type}

namespace Registry

/-- Whether a descriptor comes to a filter in a world. -/
def yields (r : Registry σ C) (w : World σ) (d : Descriptor) : Bool :=
  (r.outcome d.name d.options w).any Except.isOk

theorem builds_of_yields {r : Registry σ C} {w : World σ} {d : Descriptor}
    (h : r.yields w d = true) : r.Builds d := by
  rcases happly : (r.apply d.name d.options w).1 with _ | (_ | filter) <;>
    simp [yields, outcome, happly, Except.map, Except.isOk, Except.toBool] at h
  exact ⟨w, filter, happly⟩

namespace Steady

variable {r : Registry σ C}

/-- In a steady registry a descriptor comes to the same in any two worlds, but for the number of
the filter. -/
theorem apply_cases (h : r.Steady) (d : Descriptor) (w w' : World σ) :
    (∃ v v', r.apply d.name d.options w = (none, v) ∧ r.apply d.name d.options w' = (none, v')) ∨
    (∃ error v v', r.apply d.name d.options w = (some (.error error), v) ∧
      r.apply d.name d.options w' = (some (.error error), v')) ∨
    ∃ filter filter' v v', r.apply d.name d.options w = (some (.ok filter), v) ∧
      r.apply d.name d.options w' = (some (.ok filter'), v') ∧ filter.config = filter'.config := by
  have hsame := h d.name d.options w w'
  rcases hw : r.apply d.name d.options w with ⟨_ | (error | filter), v⟩ <;>
    rcases hw' : r.apply d.name d.options w' with ⟨_ | (error' | filter'), v'⟩ <;>
    simp [outcome, hw, hw', Except.map] at hsame
  · exact Or.inl ⟨v, v', rfl, rfl⟩
  · exact Or.inr (Or.inl ⟨error, v, v', rfl, hsame ▸ rfl⟩)
  · exact Or.inr (Or.inr ⟨filter, filter', v, v', rfl, rfl, hsame⟩)

theorem yields_eq (h : r.Steady) (w w' : World σ) : r.yields w = r.yields w' := by
  funext d
  rw [yields, yields, h d.name d.options w w']

theorem buildFrom_congr (h : r.Steady) (index : Nat) (ds : List Descriptor) (w w' : World σ) :
    (r.buildFrom index ds w).1.map (fun b => (profile b.filters, b.failures)) =
      (r.buildFrom index ds w').1.map fun b => (profile b.filters, b.failures) := by
  induction ds generalizing index w w' with
  | nil => rfl
  | cons d ds ih =>
    rcases h.apply_cases d w w' with ⟨v, v', hw, hw'⟩ | ⟨error, v, v', hw, hw'⟩ |
      ⟨filter, filter', v, v', hw, hw', hconfig⟩
    · rw [buildFrom_cons_panicked hw, buildFrom_cons_panicked hw']
    · have hrest := congrArg (Option.map fun p => (p.1, (⟨index, error⟩ : FilterFailure) :: p.2))
        (ih (index + 1) (fail ⟨index, error⟩ v) (fail ⟨index, error⟩ v'))
      rw [buildFrom_cons_error hw, buildFrom_cons_error hw']
      simp only [Option.map_map] at hrest ⊢
      exact hrest
    · have hrest := congrArg (Option.map fun p => ((d.name, filter.config) :: p.1, p.2))
        (ih (index + 1) v v')
      rw [buildFrom_cons_ok hw, buildFrom_cons_ok hw']
      simp only [Option.map_map] at hrest ⊢
      refine hrest.trans ?_
      rw [hconfig]
      rfl

/-- Two builds of a list panic, or have the same failures and the same filters but for their
numbers. -/
theorem build_cases (h : r.Steady) (ds : List Descriptor) (w w' : World σ) :
    ((r.build ds w).1 = none ∧ (r.build ds w').1 = none) ∨
    ∃ b b', (r.build ds w).1 = some b ∧ (r.build ds w').1 = some b' ∧
      profile b.filters = profile b'.filters ∧ b.failures = b'.failures := by
  have hcongr := h.buildFrom_congr 0 ds w w'
  rw [← build, ← build] at hcongr
  rcases hb : (r.build ds w).1 with _ | b <;> rcases hb' : (r.build ds w').1 with _ | b' <;>
    simp [hb, hb'] at hcongr
  · exact Or.inl ⟨rfl, rfl⟩
  · exact Or.inr ⟨b, b', rfl, rfl, hcongr⟩

theorem buildFrom_filter (h : r.Steady) {index : Nat} {ds : List Descriptor} {w : World σ}
    {b : Built C} (hb : (r.buildFrom index ds w).1 = some b) (w₀ : World σ) (index' : Nat)
    (w' : World σ) :
    ∃ b', (r.buildFrom index' (ds.filter (r.yields w₀)) w').1 = some b' ∧ b'.failures = [] ∧
      profile b'.filters = profile b.filters := by
  induction ds generalizing index w b index' w' with
  | nil =>
    obtain rfl : {} = b := Option.some.inj hb
    exact ⟨{}, rfl, rfl, rfl⟩
  | cons d ds ih =>
    have hyields := h.yields_eq w₀ w
    rcases h.apply_cases d w w' with ⟨v, v', hw, hw'⟩ | ⟨error, v, v', hw, hw'⟩ |
      ⟨filter, filter', v, v', hw, hw', hconfig⟩
    · simp [buildFrom_cons_panicked hw] at hb
    · have hnot : r.yields w₀ d = false := by
        rw [hyields]
        simp [yields, outcome, hw, Except.map, Except.isOk, Except.toBool]
      rw [buildFrom_cons_error hw] at hb
      obtain ⟨rest, hrest, rfl⟩ := Option.map_eq_some_iff.mp hb
      rw [List.filter_cons_of_neg (by simp [hnot])]
      exact ih hrest index' w'
    · have hkept : r.yields w₀ d = true := by
        rw [hyields]
        simp [yields, outcome, hw, Except.map, Except.isOk, Except.toBool]
      rw [buildFrom_cons_ok hw] at hb
      obtain ⟨rest, hrest, rfl⟩ := Option.map_eq_some_iff.mp hb
      obtain ⟨rest', hrest', hfailures, hprofile⟩ := ih hrest (index' + 1) v'
      refine ⟨{ rest' with filters := ⟨d.name, filter'⟩ :: rest'.filters }, ?_, hfailures, ?_⟩
      · rw [List.filter_cons_of_pos hkept, buildFrom_cons_ok hw', hrest']
        rfl
      · simp only [profile, List.map_cons, hconfig]
        exact congrArg _ hprofile

end Steady

end Registry

namespace Manager

variable {m : Manager σ C} {ds : List Descriptor} {w : World σ} {b : Built C}

theorem rejects_of_skip (h : m.policy = .skip) : m.rejects b = false := by
  simp [rejects, h]

theorem load_of_yields (h : m.registry.Steady) (hds : ∀ d ∈ ds, m.registry.yields w d = true)
    (w' : World σ) :
    ∃ report, (m.load ds w').1 = some (.ok report) ∧ report.skipped = [] ∧
      report.loaded = ds.length := by
  obtain ⟨_, hp⟩ := h.buildFrom_of_builds fun d hd => Registry.builds_of_yields (hds d hd)
  obtain ⟨b, hb, hfailures, _⟩ := hp 0 w'
  have hlength := m.registry.length_built hb
  rw [hfailures, List.length_nil, Nat.add_zero] at hlength
  exact ⟨_, (load_of_kept hb (m.rejects_of_complete hfailures)).1, hfailures, hlength⟩

/-- Under both policies a load of the same list panics or has the same failures. The one that
rejects fails exactly when there are any, the one that skips reports them, and each filter is loaded
or skipped. Without the descriptors that do not come to a filter the load that rejects never fails,
and publishes the names and configurations that the other one publishes for the whole list. -/
theorem policies_agree {r : Registry σ C} (h : r.Steady) (ds : List Descriptor)
    (c c' c'' : Chain C) (w w' w'' : World σ) :
    let rejecting : Manager σ C := ⟨r, .reject, c⟩
    let skipping : Manager σ C := ⟨r, .skip, c'⟩
    let sparing : Manager σ C := ⟨r, .reject, c''⟩
    let kept := ds.filter (r.yields w)
    ((rejecting.load ds w).1 = none ↔ (skipping.load ds w').1 = none) ∧
    (∀ e, (skipping.load ds w').1 ≠ some (.error e)) ∧
    (∀ e, (rejecting.load ds w).1 = some (.error e) ↔
      ∃ report, (skipping.load ds w').1 = some (.ok report) ∧ report.skipped ≠ [] ∧
        e.failures = report.skipped ∧ e.total = ds.length) ∧
    (∀ report, (skipping.load ds w').1 = some (.ok report) →
      report.loaded + report.skipped.length = ds.length ∧
      (report.skipped = [] → ∃ report', (rejecting.load ds w).1 = some (.ok report') ∧
        report'.skipped = [] ∧ report'.loaded = ds.length) ∧
      profile (sparing.load kept w'').2.1.active.filters =
        profile (skipping.load ds w').2.1.active.filters) ∧
    ∃ report, (sparing.load kept w'').1 = some (.ok report) ∧ report.skipped = [] ∧
      report.loaded = kept.length := by
  intro rejecting skipping sparing kept
  have hkept : ∃ report, (sparing.load kept w'').1 = some (.ok report) ∧ report.skipped = [] ∧
      report.loaded = kept.length :=
    load_of_yields (m := sparing) h (fun d hd => (List.mem_filter.mp hd).2) w''
  rcases h.build_cases ds w w' with ⟨hnone, hnone'⟩ | ⟨b, b', hb, hb', hprofile, hfailures⟩
  · have hrejecting : (rejecting.load ds w).1 = none := (load_of_panic hnone).1
    have hskipping : (skipping.load ds w').1 = none := (load_of_panic hnone').1
    simp [hrejecting, hskipping, hkept]
  · obtain ⟨hskipping, hactive⟩ := load_of_kept (m := skipping) hb' (rejects_of_skip rfl)
    obtain ⟨spared, hspared, hcomplete, hsame⟩ := h.buildFrom_filter hb w 0 w''
    obtain ⟨_, hsparing⟩ :=
      load_of_kept (m := sparing) hspared (sparing.rejects_of_complete hcomplete)
    have hlength : b'.filters.length + b'.failures.length = ds.length := r.length_built hb'
    have hpublished : profile (sparing.load kept w'').2.1.active.filters =
        profile (skipping.load ds w').2.1.active.filters := by
      rw [hsparing, hactive, active_publish, active_publish, hsame, hprofile]
    by_cases hnil : b.failures = []
    · have hnil' : b'.failures = [] := hfailures ▸ hnil
      have htotal : b.filters.length = ds.length := by
        simpa [hnil] using r.length_built hb
      obtain ⟨hrejecting, _⟩ := load_of_kept hb (rejecting.rejects_of_complete hnil)
      simp [hrejecting, hskipping, hnil, hnil', htotal, hkept, hpublished, ← hlength]
    · have hsome : b'.failures ≠ [] := hfailures ▸ hnil
      have hrejects : rejecting.rejects b = true := (rejecting.rejects_iff b).mpr ⟨hnil, rfl⟩
      have hrejecting : (rejecting.load ds w).1 = some (.error ⟨ds.length, b.failures⟩) :=
        (load_of_rejects hb hrejects).1
      refine ⟨by simp [hrejecting, hskipping], by simp [hskipping], ?_, ?_, hkept⟩
      · intro e
        rw [hrejecting, hskipping]
        constructor
        · intro he
          obtain rfl := Except.error.inj (Option.some.inj he)
          exact ⟨_, rfl, hsome, hfailures, rfl⟩
        · rintro ⟨report, hreport, _, hsameFailures, htotal⟩
          obtain rfl := Except.ok.inj (Option.some.inj hreport)
          obtain ⟨total, failures⟩ := e
          simp only at hsameFailures htotal
          rw [htotal, hsameFailures, hfailures]
      · intro report hreport
        obtain rfl := Except.ok.inj (Option.some.inj (hskipping.symm.trans hreport))
        exact ⟨hlength, fun hcomplete' => absurd hcomplete' hsome, hpublished⟩

theorem policies_agree_of_mixed :
    let registry := Catalogue.registryOf [("limit", "limit"), ("prefix", "prefix")]
    let world : World Calls := ⟨[], 0, [], .zero⟩
    let busy : World Calls := ⟨[("limit", 3)], 7, [], .zero⟩
    let ds : List Descriptor :=
      [⟨"limit", [("limit", .int 5)]⟩, ⟨"absent", []⟩, ⟨"prefix", []⟩,
        ⟨"prefix", [("prefix", .text "/api")]⟩]
    let rejecting : Manager Calls Setup := ⟨registry, .reject, {}⟩
    let skipping : Manager Calls Setup := ⟨registry, .skip, ⟨4, []⟩⟩
    let kept := ds.filter (registry.yields world)
    kept.map (·.name) = ["limit", "prefix"] ∧
      (∃ e report, (rejecting.load ds world).1 = some (.error e) ∧
        (skipping.load ds busy).1 = some (.ok report) ∧ e.failures = report.skipped ∧
        e.total = 4 ∧ report.skipped.map (·.index) = [1, 2] ∧ report.loaded = 2) ∧
      profile (rejecting.load kept busy).2.1.active.filters =
        profile (skipping.load ds busy).2.1.active.filters := by
  intro registry world busy ds rejecting skipping kept
  have hsteady : registry.Steady := Catalogue.registryOf_steady (by decide)
  obtain ⟨_, _, herror, hreport, _⟩ := policies_agree hsteady ds {} ⟨4, []⟩ {} world busy busy
  have hchecked : (skipping.load ds busy).1.any (fun result =>
      result.toOption.any fun report => report.skipped.map (·.index) = [1, 2]) = true := by
    decide +kernel
  rcases hskipping : (skipping.load ds busy).1 with _ | _ | report <;> rw [hskipping] at hchecked
  · cases hchecked
  · cases hchecked
  have hindices : report.skipped.map (·.index) = [1, 2] := by
    simpa [Except.toOption] using hchecked
  obtain ⟨hlength, _, hprofile⟩ := hreport report hskipping
  have hsome : report.skipped ≠ [] := by
    rintro hnil
    rw [hnil] at hindices
    cases hindices
  have htwo : report.skipped.length = 2 := by
    rw [← List.length_map (fun failure => failure.index), hindices]
    rfl
  have hrejected := (herror ⟨4, report.skipped⟩).mpr ⟨report, hskipping, hsome, rfl, rfl⟩
  refine ⟨by decide +kernel, ⟨_, report, hrejected, rfl, rfl, rfl, hindices, ?_⟩, hprofile⟩
  rw [htwo] at hlength
  exact Nat.add_right_cancel hlength

end Manager

end FilterGateway
