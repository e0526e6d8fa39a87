import FilterGateway.Proofs.Manager.Load

/-!
# What a load adds to the log

A load does not look at the log: with other events before its own it has the same result, and adds
the same events. None of them is an event of the reload loop.
-/

namespace FilterGateway

variable {σ C : Type}

namespace World

/-- The world with earlier events in its log. -/
def prepend (w : World σ) (earlier : List Event) : World σ :=
  { w with events := earlier ++ w.events }

/-- What the reload loop has logged. -/
def loopEvents (w : World σ) : List Event :=
  w.events.filter (·.component == .reload)

@[simp] theorem plugins_prepend (w : World σ) (earlier : List Event) :
    (w.prepend earlier).plugins = w.plugins := rfl

@[simp] theorem log_prepend (w : World σ) (earlier : List Event) (e : Event) :
    (w.prepend earlier).log e = (w.log e).prepend earlier := by
  simp [prepend, log]

@[simp] theorem measure_prepend (w : World σ) (earlier : List Event) (update : Metrics → Metrics) :
    (w.prepend earlier).measure update = (w.measure update).prepend earlier := rfl

theorem quiet_prepend (w : World σ) : w.quiet.prepend w.events = w := by
  simp [quiet, prepend]

@[simp] theorem loopEvents_log (w : World σ) (e : Event) :
    (w.log e).loopEvents = w.loopEvents ++ if e.component = .reload then [e] else [] := by
  by_cases h : e.component = .reload <;> simp [loopEvents, h]

@[simp] theorem loopEvents_measure (w : World σ) (update : Metrics → Metrics) :
    (w.measure update).loopEvents = w.loopEvents := rfl

end World

namespace Plugin

variable (plugin : Plugin σ C) (name : String) (options : Fields) (made : Instance C) (w : World σ)
  (earlier : List Event)

theorem make_prepend :
    plugin.make (w.prepend earlier) =
      ((plugin.make w).1, (plugin.make w).2.prepend earlier) := by
  rcases h : plugin.create w.plugins with ⟨fresh | message | _, s⟩ <;>
    simp [make, h, World.prepend]

theorem finish_prepend :
    plugin.finish name options made (w.prepend earlier) =
      ((plugin.finish name options made w).1,
        (plugin.finish name options made w).2.prepend earlier) := by
  rcases h : plugin.init made.config w.plugins with ⟨ready | message | _, s⟩ <;>
    simp [finish, h, World.prepend, World.log]

theorem configure_prepend :
    plugin.configure name options made (w.prepend earlier) =
      ((plugin.configure name options made w).1,
        (plugin.configure name options made w).2.prepend earlier) := by
  rcases h : plugin.bind options made.config w.plugins with ⟨bound | message | _, s⟩
  · simp only [configure, World.plugins_prepend, h]
    exact plugin.finish_prepend name options { made with config := bound }
      { w with plugins := s } earlier
  · simp [configure, h, World.prepend]
  · simp [configure, h, World.prepend]

theorem loopEvents_make : (plugin.make w).2.loopEvents = w.loopEvents := by
  rcases h : plugin.create w.plugins with ⟨fresh | message | _, s⟩ <;>
    simp [make, h, World.loopEvents]

theorem loopEvents_finish : (plugin.finish name options made w).2.loopEvents = w.loopEvents := by
  rcases h : plugin.init made.config w.plugins with ⟨ready | message | _, s⟩ <;>
    simp [finish, h, World.loopEvents, Event.component]

theorem loopEvents_configure :
    (plugin.configure name options made w).2.loopEvents = w.loopEvents := by
  rcases h : plugin.bind options made.config w.plugins with ⟨bound | message | _, s⟩
  · have hfinish := plugin.loopEvents_finish name options { made with config := bound }
      { w with plugins := s }
    simpa [configure, h, World.loopEvents] using hfinish
  · simp [configure, h, World.loopEvents]
  · simp [configure, h, World.loopEvents]

end Plugin

namespace Registry

variable (r : Registry σ C)

theorem apply_prepend (name : String) (options : Fields) (w : World σ) (earlier : List Event) :
    r.apply name options (w.prepend earlier) =
      ((r.apply name options w).1, (r.apply name options w).2.prepend earlier) := by
  rcases hresolve : r.resolve name with error | plugin
  · simp [apply, hresolve]
  · have hmake := plugin.make_prepend w earlier
    rcases h : plugin.make w with ⟨made | message | _, w'⟩ <;> rw [h] at hmake
    · simp only [apply, hresolve, h, hmake]
      exact plugin.configure_prepend name options made w' earlier
    · simp [apply, hresolve, h, hmake]
    · simp [apply, hresolve, h, hmake]

theorem loopEvents_apply (name : String) (options : Fields) (w : World σ) :
    (r.apply name options w).2.loopEvents = w.loopEvents := by
  rcases hresolve : r.resolve name with error | plugin
  · simp [apply, hresolve]
  · have hmake := plugin.loopEvents_make w
    rcases h : plugin.make w with ⟨made | message | _, w'⟩ <;> rw [h] at hmake
    · simp only [apply, hresolve, h]
      rw [plugin.loopEvents_configure, hmake]
    · simpa [apply, hresolve, h] using hmake
    · simpa [apply, hresolve, h] using hmake

theorem buildFrom_prepend (index : Nat) (ds : List Descriptor) (w : World σ)
    (earlier : List Event) :
    r.buildFrom index ds (w.prepend earlier) =
      ((r.buildFrom index ds w).1, (r.buildFrom index ds w).2.prepend earlier) := by
  induction ds generalizing index w with
  | nil => rfl
  | cons d ds ih =>
    have happly := r.apply_prepend d.name d.options w earlier
    rcases h : r.apply d.name d.options w with ⟨_ | (error | filter), w'⟩ <;> rw [h] at happly
    · rw [buildFrom_cons_panicked h, buildFrom_cons_panicked happly]
    · have hfail : fail ⟨index, error⟩ (w'.prepend earlier) =
          (fail ⟨index, error⟩ w').prepend earlier := by simp [fail]
      rw [buildFrom_cons_error h, buildFrom_cons_error happly, hfail, ih]
    · rw [buildFrom_cons_ok h, buildFrom_cons_ok happly, ih]

theorem loopEvents_buildFrom (index : Nat) (ds : List Descriptor) (w : World σ) :
    (r.buildFrom index ds w).2.loopEvents = w.loopEvents := by
  induction ds generalizing index w with
  | nil => rfl
  | cons d ds ih =>
    have happly := r.loopEvents_apply d.name d.options w
    rcases h : r.apply d.name d.options w with ⟨_ | (error | filter), w'⟩ <;> rw [h] at happly
    · rw [buildFrom_cons_panicked h]
      exact happly
    · rw [buildFrom_cons_error h, ih]
      simpa [fail, Event.component] using happly
    · rw [buildFrom_cons_ok h, ih]
      exact happly

theorem build_congr (ds : List Descriptor) {w w' : World σ} (h : w.quiet = w'.quiet) :
    (r.build ds w).1 = (r.build ds w').1 := by
  have hbuild := r.buildFrom_prepend 0 ds w.quiet w.events
  have hbuild' := r.buildFrom_prepend 0 ds w.quiet w'.events
  rw [w.quiet_prepend] at hbuild
  rw [h, w'.quiet_prepend] at hbuild'
  rw [build, build, hbuild, hbuild', h]

end Registry

namespace Manager

variable (m : Manager σ C)

theorem settle_prepend (total : Nat) (b : Built C) (w : World σ) (earlier : List Event) :
    m.settle total b (w.prepend earlier) =
      ((m.settle total b w).1, (m.settle total b w).2.1,
        (m.settle total b w).2.2.prepend earlier) := by
  cases hrejects : m.rejects b <;> cases hcomplete : b.isComplete <;>
    simp [settle, hrejects, hcomplete]

theorem loopEvents_settle (total : Nat) (b : Built C) (w : World σ) :
    (m.settle total b w).2.2.loopEvents = w.loopEvents := by
  cases hrejects : m.rejects b <;> cases hcomplete : b.isComplete <;>
    simp [settle, hrejects, hcomplete, Event.component]

theorem load_prepend (ds : List Descriptor) (w : World σ) (earlier : List Event) :
    m.load ds (w.prepend earlier) =
      ((m.load ds w).1, (m.load ds w).2.1, (m.load ds w).2.2.prepend earlier) := by
  have hbuild := m.registry.buildFrom_prepend 0 ds w earlier
  rcases h : m.registry.buildFrom 0 ds w with ⟨_ | b, w'⟩ <;> rw [h] at hbuild
  · simp [load, Registry.build, h, hbuild]
  · simp [load, Registry.build, h, hbuild, settle_prepend]

theorem loopEvents_load (ds : List Descriptor) (w : World σ) :
    (m.load ds w).2.2.loopEvents = w.loopEvents := by
  have hbuild := m.registry.loopEvents_buildFrom 0 ds w
  rcases h : m.registry.buildFrom 0 ds w with ⟨_ | b, w'⟩ <;> rw [h] at hbuild
  · simpa [load, Registry.build, h] using hbuild
  · simpa [load, Registry.build, h, loopEvents_settle] using hbuild

/-- The log has no part in what comes of a load. -/
theorem load_congr (ds : List Descriptor) {w w' : World σ} (h : w.quiet = w'.quiet) :
    (m.load ds w).1 = (m.load ds w').1 ∧ (m.load ds w).2.1 = (m.load ds w').2.1 ∧
      (m.load ds w).2.2.quiet = (m.load ds w').2.2.quiet := by
  have hload := m.load_prepend ds w.quiet w.events
  have hload' := m.load_prepend ds w.quiet w'.events
  rw [w.quiet_prepend] at hload
  rw [h, w'.quiet_prepend] at hload'
  rw [hload, hload', h]
  exact ⟨rfl, rfl, rfl⟩

end Manager

end FilterGateway
