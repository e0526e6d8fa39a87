import FilterGateway.Catalogue.Plugins
import FilterGateway.Proofs.Build.Calls
import FilterGateway.Proofs.Manager.Account
import FilterGateway.Proofs.Manager.Log

/-!
# How a build splits its descriptors

Unless a plugin panics, each descriptor of a list is attempted once and in order, and comes to a
filter or to a failure with its position. So the list is split without loss, and a longer list is
built as its first part and then its second part, with positions that are shifted by the length of
the first.
-/

namespace FilterGateway

variable {σ C : Type}

namespace Built

/-- The positions of the failures. -/
def positions (b : Built C) : List Nat :=
  b.failures.map (·.index)

/-- What became of a list and of another one after it. -/
def join (b b' : Built C) : Built C :=
  ⟨b.filters ++ b'.filters, b.failures ++ b'.failures⟩

/-- What became of a list when `n` descriptors stand before it. -/
def shift (n : Nat) (b : Built C) : Built C :=
  { b with failures := b.failures.map fun failure => { failure with index := n + failure.index } }

/-- How descriptors of which the first has the position `index` are split, with what each came to:
those at the positions in `ready` are the filters, and all others are the failures. -/
structure Splits (b : Built C) (index : Nat)
    (tried : List (Descriptor × Except FilterError (Instance C))) (ready : List Nat) : Prop where
  covers : (ready ++ b.positions).Perm (List.range' index tried.length)
  sublist_ready : ready.Sublist (List.range' index tried.length)
  sublist_positions : b.positions.Sublist (List.range' index tried.length)
  filters : List.Forall₂ (fun (f : LoadedFilter C) i =>
    ∃ d, ((d, .ok f.filter), i) ∈ tried.zipIdx index ∧ f.name = d.name) b.filters ready
  failures : ∀ failure ∈ b.failures,
    ∃ d, ((d, .error failure.error), failure.index) ∈ tried.zipIdx index

namespace Splits

variable {b : Built C} {index : Nat} {ready : List Nat}
  {tried : List (Descriptor × Except FilterError (Instance C))}

theorem nil (index : Nat) : ({} : Built C).Splits index [] [] :=
  ⟨.refl _, .refl _, .refl _, .nil, by simp⟩

theorem cons_ok (h : b.Splits (index + 1) tried ready) (d : Descriptor) (filter : Instance C) :
    { b with filters := ⟨d.name, filter⟩ :: b.filters : Built C }.Splits index
      ((d, .ok filter) :: tried) (index :: ready) where
  covers := by
    rw [List.length_cons, List.range'_succ]
    exact h.covers.cons index
  sublist_ready := by
    rw [List.length_cons, List.range'_succ]
    exact h.sublist_ready.cons_cons index
  sublist_positions := by
    rw [List.length_cons, List.range'_succ]
    exact h.sublist_positions.cons index
  filters := by
    refine .cons ⟨d, List.mem_cons_self, rfl⟩ (h.filters.imp ?_)
    rintro f i ⟨d', hmem, hname⟩
    exact ⟨d', List.mem_cons_of_mem _ hmem, hname⟩
  failures failure hfailure := by
    obtain ⟨d', hmem⟩ := h.failures failure hfailure
    exact ⟨d', List.mem_cons_of_mem _ hmem⟩

theorem cons_error (h : b.Splits (index + 1) tried ready) (d : Descriptor) (error : FilterError) :
    { b with failures := ⟨index, error⟩ :: b.failures : Built C }.Splits index
      ((d, .error error) :: tried) ready where
  covers := by
    rw [List.length_cons, List.range'_succ]
    exact List.perm_middle.trans (h.covers.cons index)
  sublist_ready := by
    rw [List.length_cons, List.range'_succ]
    exact h.sublist_ready.cons index
  sublist_positions := by
    rw [List.length_cons, List.range'_succ]
    exact h.sublist_positions.cons_cons index
  filters := by
    refine h.filters.imp ?_
    rintro f i ⟨d', hmem, hname⟩
    exact ⟨d', List.mem_cons_of_mem _ hmem, hname⟩
  failures failure hfailure := by
    rcases List.mem_cons.mp hfailure with rfl | hlater
    · exact ⟨d, List.mem_cons_self⟩
    · obtain ⟨d', hmem⟩ := h.failures failure hlater
      exact ⟨d', List.mem_cons_of_mem _ hmem⟩

end Splits

end Built

namespace Registry

variable (r : Registry σ C)

/-- A build splits its descriptors by what each of them came to. -/
theorem buildFrom_splits {index : Nat} {ds : List Descriptor} {w : World σ}
    {results : List (Except FilterError (Instance C))}
    (h : r.attempts index ds w = results.map some) :
    ∃ b ready, (r.buildFrom index ds w).1 = some b ∧ b.Splits index (ds.zip results) ready := by
  induction ds generalizing index w results with
  | nil => exact ⟨{}, [], rfl, .nil index⟩
  | cons d ds ih =>
    rcases happly : r.apply d.name d.options w with ⟨_ | (error | filter), w'⟩ <;>
      simp only [attempts, happly] at h
    · cases results <;> cases h
    · rcases results with _ | ⟨result, results⟩
      · cases h
      obtain ⟨hresult, hresults⟩ := List.cons.inj h
      obtain rfl := Option.some.inj hresult
      obtain ⟨b, ready, hb, hsplits⟩ := ih hresults
      refine ⟨_, ready, ?_, hsplits.cons_error d error⟩
      rw [buildFrom_cons_error happly, hb]
      rfl
    · rcases results with _ | ⟨result, results⟩
      · cases h
      obtain ⟨hresult, hresults⟩ := List.cons.inj h
      obtain rfl := Option.some.inj hresult
      obtain ⟨b, ready, hb, hsplits⟩ := ih hresults
      refine ⟨_, index :: ready, ?_, hsplits.cons_ok d filter⟩
      rw [buildFrom_cons_ok happly, hb]
      rfl

end Registry

/-! ### Positions -/

/-- The event of a build when `n` descriptors stand before the list. -/
def Event.shift (n : Nat) : Event → Event
  | .buildFailed failure => .buildFailed { failure with index := n + failure.index }
  | e => e

/-- The world with shifted positions in its log. -/
def World.shift (n : Nat) (w : World σ) : World σ :=
  { w with events := w.events.map (Event.shift n) }

@[simp] theorem World.shift_prepend (n : Nat) (w : World σ) (earlier : List Event) :
    (w.prepend earlier).shift n = (w.shift n).prepend (earlier.map (Event.shift n)) := by
  simp [shift, prepend]

theorem Event.shift_of_not_isBuildFailure {e : Event} (h : e.isBuildFailure = false) (n : Nat) :
    e.shift n = e := by
  cases e with
  | buildFailed failure => simp at h
  | _ => rfl

theorem World.Reported.shift_eq {w w' : World σ} (h : w.quiet.Reported w' []) (n : Nat) :
    w'.shift n = w' := by
  obtain ⟨events, hevents, _, hfailed⟩ := h.logged
  obtain rfl : w'.events = events := hevents
  have hkept : w'.events.map (Event.shift n) = w'.events := by
    refine (List.map_congr_left ?_).trans (List.map_id' _)
    intro e he
    have hnot := List.filter_eq_nil_iff.mp hfailed e he
    exact Event.shift_of_not_isBuildFailure (Bool.eq_false_iff.mpr hnot) n
  rw [World.shift, hkept]

namespace Registry

variable (r : Registry σ C)

theorem apply_shift (n : Nat) (name : String) (options : Fields) (w : World σ) :
    r.apply name options (w.shift n) =
      ((r.apply name options w).1, (r.apply name options w).2.shift n) := by
  -- Both logs are put before the same run, which logs no failure of its own.
  have hplain := r.apply_prepend name options w.quiet w.events
  have hshifted := r.apply_prepend name options w.quiet (w.events.map (Event.shift n))
  have hquiet := (r.apply_reported name options w.quiet).shift_eq n
  have hworld : w.quiet.prepend (w.events.map (Event.shift n)) = w.shift n :=
    (w.shift n).quiet_prepend
  rw [w.quiet_prepend] at hplain
  rw [hworld] at hshifted
  rw [hplain, hshifted, World.shift_prepend, hquiet]

theorem buildFrom_shift (n index : Nat) (ds : List Descriptor) (w : World σ) :
    r.buildFrom (n + index) ds (w.shift n) =
      ((r.buildFrom index ds w).1.map (Built.shift n), (r.buildFrom index ds w).2.shift n) := by
  induction ds generalizing index w with
  | nil => rfl
  | cons d ds ih =>
    have happly := r.apply_shift n d.name d.options w
    rcases h : r.apply d.name d.options w with ⟨_ | (error | filter), w'⟩ <;> rw [h] at happly
    · rw [buildFrom_cons_panicked h, buildFrom_cons_panicked happly]
      rfl
    · have hfail : fail ⟨n + index, error⟩ (w'.shift n) = (fail ⟨index, error⟩ w').shift n := by
        simp [fail, World.shift, World.log, World.measure, Event.shift]
      rw [buildFrom_cons_error h, buildFrom_cons_error happly, hfail, Nat.add_assoc, ih]
      simp only [Option.map_map]
      rfl
    · rw [buildFrom_cons_ok h, buildFrom_cons_ok happly, Nat.add_assoc, ih]
      simp only [Option.map_map]
      rfl

theorem buildFrom_append (index : Nat) (ds es : List Descriptor) (w : World σ) :
    r.buildFrom index (ds ++ es) w =
      match r.buildFrom index ds w with
      | (none, w') => (none, w')
      | (some b, w') =>
        ((r.buildFrom (index + ds.length) es w').1.map b.join,
          (r.buildFrom (index + ds.length) es w').2) := by
  induction ds generalizing index w with
  | nil =>
    have hjoin : (Built.join {} : Built C → Built C) = id := rfl
    simp [buildFrom, hjoin]
  | cons d ds ih =>
    have hindex : index + 1 + ds.length = index + (d :: ds).length := by simp; omega
    rw [List.cons_append]
    rcases h : r.apply d.name d.options w with ⟨_ | (error | filter), w'⟩
    · rw [buildFrom_cons_panicked h, buildFrom_cons_panicked h]
    · rw [buildFrom_cons_error h, buildFrom_cons_error h, ih, ← hindex]
      rcases r.buildFrom (index + 1) ds (fail ⟨index, error⟩ w') with ⟨_ | b, w''⟩
      · rfl
      · simp only [Option.map_some, Option.map_map]
        rfl
    · rw [buildFrom_cons_ok h, buildFrom_cons_ok h, ih, ← hindex]
      rcases r.buildFrom (index + 1) ds w' with ⟨_ | b, w''⟩
      · rfl
      · simp only [Option.map_some, Option.map_map]
        rfl

/-- After a list has been built, another one is built as it would be alone, but for the positions in
its failures and in what it logs. -/
theorem build_append {ds : List Descriptor} {w : World σ} {b : Built C}
    (hb : (r.build ds w).1 = some b) (es : List Descriptor) :
    let w' := (r.build ds w).2
    ∃ events, (r.build es w').2.events = w'.events ++ events ∧
      r.build (ds ++ es) w =
        ((r.build es w').1.map fun b' => b.join (b'.shift ds.length),
          { (r.build es w').2 with
            events := w'.events ++ events.map (Event.shift ds.length) }) := by
  intro w'
  have hbuild : r.buildFrom 0 ds w = (some b, w') := Prod.ext hb rfl
  -- The second build, alone and with its positions after the first, with the same log before it.
  have halone := r.buildFrom_prepend 0 es w'.quiet w'.events
  have hafter := r.buildFrom_prepend ds.length es w'.quiet w'.events
  have hshift := r.buildFrom_shift ds.length 0 es w'.quiet
  rw [w'.quiet_prepend] at halone hafter
  rw [Nat.add_zero, show w'.quiet.shift ds.length = w'.quiet from rfl] at hshift
  rw [hshift] at hafter
  refine ⟨(r.buildFrom 0 es w'.quiet).2.events, ?_, ?_⟩
  · rw [build, halone]
    rfl
  · rw [build, build, buildFrom_append, hbuild, halone, Nat.zero_add]
    simp only [hafter, Option.map_map]
    rfl

/-- Unless a plugin panics, a build makes one attempt for each descriptor, in their order: its calls
are those of the attempts, where each stage follows the success of the one before. The descriptors
are split by what they came to: the failures are at increasing positions and tell the name of their
descriptor and the first stage that failed, and the filters are at all other positions, in order and
under the names of their descriptors. What is built after them is built as it would be alone, with
its positions after theirs. -/
theorem build_splits (ds : List Descriptor) (w : World σ)
    (hcalm : ∀ call ∈ r.calls ds w, call.outcome.isPanic = false) :
    ∃ (b : Built C) (attempts : List (Attempt C)) (ready : List Nat),
      r.traced.build ds (w.withCalls []) = withCalls (r.build ds w) (r.calls ds w) ∧
      (r.build ds w).1 = some b ∧
      r.calls ds w = attempts.flatMap Attempt.calls ∧
      List.Forall₂ r.Attempted ds attempts ∧
      b.filters.length + b.failures.length = ds.length ∧
      (ready ++ b.positions).Perm (List.range ds.length) ∧
      b.positions.Pairwise (· < ·) ∧ ready.Pairwise (· < ·) ∧
      (∀ failure ∈ b.failures, ∃ d a, ds[failure.index]? = some d ∧
        attempts[failure.index]? = some a ∧ a.result = .error failure.error ∧
        failure.error.filterName = d.name ∧
        r.firstFailure? d a.calls = some failure.error.kind) ∧
      List.Forall₂ (fun (f : LoadedFilter C) i => ∃ d a, ds[i]? = some d ∧
        attempts[i]? = some a ∧ a.result = .ok f.filter ∧ f.name = d.name) b.filters ready ∧
      ∀ es, let w' := (r.build ds w).2
        ∃ events, (r.build es w').2.events = w'.events ++ events ∧
          r.build (ds ++ es) w =
            ((r.build es w').1.map fun b' => b.join (b'.shift ds.length),
              { (r.build es w').2 with
                events := w'.events ++ events.map (Event.shift ds.length) }) := by
  obtain ⟨calls, htraced, hattempts⟩ := r.buildFrom_traced 0 ds w []
  obtain rfl : r.calls ds w = calls := by rw [Registry.calls, build, htraced]; rfl
  obtain ⟨attempts, hcalls, hattempted, hresults⟩ := hattempts hcalm
  let results := attempts.map Attempt.result
  have hlength : ds.length = results.length := by
    rw [hattempted.length_eq, List.length_map]
  have htried : (ds.zip results).length = ds.length := by
    rw [List.length_zip, ← hlength, Nat.min_self]
  have hcame : r.attempts 0 ds w = results.map some := by
    rw [hresults, List.map_map]
    rfl
  obtain ⟨b, ready, hb, hsplits⟩ := r.buildFrom_splits hcame
  -- An entry of the split is a descriptor with the attempt that was made for it.
  have hentry : ∀ {d result i}, ((d, result), i) ∈ (ds.zip results).zipIdx →
      ∃ a, ds[i]? = some d ∧ attempts[i]? = some a ∧ a.result = result := by
    intro d result i hmem
    rw [List.mk_mem_zipIdx_iff_getElem?, List.getElem?_zip_eq_some] at hmem
    obtain ⟨hd, hresult⟩ := hmem
    obtain ⟨a, ha, hresult⟩ := by simpa [results] using hresult
    exact ⟨a, hd, ha, hresult⟩
  have hcovers := hsplits.covers
  have hready := hsplits.sublist_ready
  have hpositions := hsplits.sublist_positions
  rw [htried, ← List.range_eq_range'] at hcovers hready hpositions
  refine ⟨b, attempts, ready, htraced, hb, hcalls, hattempted, r.length_built hb, hcovers,
    List.pairwise_lt_range.sublist hpositions, List.pairwise_lt_range.sublist hready, ?_, ?_,
    r.build_append hb⟩
  · intro failure hfailure
    obtain ⟨d, hmem⟩ := hsplits.failures failure hfailure
    obtain ⟨a, hd, ha, hresult⟩ := hentry hmem
    have hzip : (d, a) ∈ ds.zip attempts :=
      List.mem_of_getElem? (List.getElem?_zip_eq_some.mpr ⟨hd, ha⟩)
    obtain ⟨hname, hkind⟩ := ((List.forall₂_iff_zip.mp hattempted).2 hzip).error hresult
    exact ⟨d, a, hd, ha, hresult, hname, hkind⟩
  · refine hsplits.filters.imp ?_
    rintro f i ⟨d, hmem, hname⟩
    obtain ⟨a, hd, ha, hresult⟩ := hentry hmem
    exact ⟨d, a, hd, ha, hresult, hname⟩

theorem build_splits_of_each_stage :
    let registry := Catalogue.registryOf
      [("limit", "limit"), ("flaky", "flaky"), ("broken", "broken"), ("prefix", "prefix")]
    let world : World Calls := ⟨[], 0, [], .zero⟩
    let ds : List Descriptor :=
      [⟨"flaky", []⟩, ⟨"absent", []⟩, ⟨"flaky", []⟩, ⟨"limit", []⟩, ⟨"broken", []⟩,
        ⟨"limit", [("limit", .bool true)]⟩, ⟨"prefix", []⟩]
    ∃ b ready, (registry.build ds world).1 = some b ∧ b.positions = [1, 2, 4, 5, 6] ∧
      b.filters.length = 2 ∧ (ready ++ b.positions).Perm (List.range 7) := by
  intro registry world ds
  have hall : ((registry.calls ds world).all fun call => !call.outcome.isPanic) = true := by
    decide +kernel
  have hcalm : ∀ call ∈ registry.calls ds world, call.outcome.isPanic = false := by
    intro call hcall
    simpa using List.all_eq_true.mp hall call hcall
  obtain ⟨b, attempts, ready, _, hb, _, _, hlength, hcovers, _⟩ :=
    registry.build_splits ds world hcalm
  have hpositions : b.positions = [1, 2, 4, 5, 6] := by
    have hchecked : (registry.build ds world).1.map Built.positions = some [1, 2, 4, 5, 6] := by
      decide +kernel
    rw [hb] at hchecked
    exact Option.some.inj hchecked
  have hfailures : b.failures.length = 5 := by
    rw [← List.length_map (fun failure => failure.index)]
    exact congrArg List.length hpositions
  have htotal : b.filters.length + 5 = 7 := hfailures ▸ hlength
  exact ⟨b, ready, hb, hpositions, Nat.add_right_cancel htotal, hcovers⟩

end Registry

end FilterGateway
