import FilterGateway.Proofs.Manager.History

/-!
# Recording what plugins do

A recorded plugin works as the plugin itself does and keeps a ledger of what it did with which
filter. Its configurations carry the number of their filter, so each entry of the ledger names one.
Recording changes nothing: forgetting the numbers and the ledger of a recorded history gives the
history itself.
-/

namespace FilterGateway

/-- One thing that a plugin did with the filter number `id`. -/
inductive LedgerEntry (C : Type) where
  | created (id : Nat) (plugin : String) (config : C)
  | bound (id : Nat) (options : Fields) (before : C) (outcome : Outcome C)
  | initialized (id : Nat) (before : C) (outcome : Outcome C)

/-- The state of plugins with the number of filters that they made and what they did with them. -/
structure Ledger (σ C : Type) where
  plugins : σ
  created : Nat
  entries : List (LedgerEntry C) := []

structure Numbered (C : Type) where
  id : Nat
  config : C

def LedgerEntry.id {C : Type} : LedgerEntry C → Nat
  | created id _ _ | bound id _ _ _ | initialized id _ _ => id

def Outcome.map {α β : Type} (f : α → β) : Outcome α → Outcome β
  | done value => .done (f value)
  | failed message => .failed message
  | panicked => .panicked

variable {σ C : Type}

/-- The plugin with a ledger, in which it goes by `name`. -/
def Plugin.recorded (name : String) (plugin : Plugin σ C) : Plugin (Ledger σ C) (Numbered C) where
  create l :=
    match plugin.create l.plugins with
    | (.done config, plugins) =>
      (.done ⟨l.created + 1, config⟩,
        ⟨plugins, l.created + 1, l.entries ++ [.created (l.created + 1) name config]⟩)
    | (.failed message, plugins) => (.failed message, { l with plugins })
    | (.panicked, plugins) => (.panicked, { l with plugins })
  bind options c l :=
    let (outcome, plugins) := plugin.bind options c.config l.plugins
    (outcome.map (Numbered.mk c.id),
      ⟨plugins, l.created, l.entries ++ [.bound c.id options c.config outcome]⟩)
  init c l :=
    let (outcome, plugins) := plugin.init c.config l.plugins
    (outcome.map (Numbered.mk c.id),
      ⟨plugins, l.created, l.entries ++ [.initialized c.id c.config outcome]⟩)

/-- The registry with every plugin recorded under its own name. -/
def Registry.recorded (r : Registry σ C) : Registry (Ledger σ C) (Numbered C) where
  plugins := r.plugins.mapValues Plugin.recorded
  sorted := Table.sorted_mapValues _ r.sorted
  named entry h := by
    obtain ⟨original, horiginal, rfl⟩ := List.mem_map.mp h
    exact r.named original horiginal

def Operation.recorded : Operation σ C → Operation (Ledger σ C) (Numbered C)
  | register name plugin => .register name (plugin.recorded name)
  | apply name options => .apply name options
  | load ds => .load ds

def World.recorded (C : Type) (w : World σ) : World (Ledger σ C) :=
  ⟨⟨w.plugins, w.created, []⟩, w.created, w.events, w.metrics⟩

/-! ### Forgetting -/

def World.forget (w : World (Ledger σ C)) : World σ :=
  ⟨w.plugins.plugins, w.created, w.events, w.metrics⟩

def Instance.forget (i : Instance (Numbered C)) : Instance C :=
  ⟨i.id, i.config.config, i.inits⟩

def LoadedFilter.forget (f : LoadedFilter (Numbered C)) : LoadedFilter C :=
  ⟨f.name, f.filter.forget⟩

def Built.forget (b : Built (Numbered C)) : Built C :=
  ⟨b.filters.map LoadedFilter.forget, b.failures⟩

def Chain.forget (c : Chain (Numbered C)) : Chain C :=
  ⟨c.generation, c.filters.map LoadedFilter.forget⟩

def Answer.forget : Answer (Numbered C) → Answer C
  | registered result => .registered result
  | applied result? => .applied (result?.map fun result => result.map Instance.forget)
  | loaded result? => .loaded result?

@[simp] theorem World.forget_log (w : World (Ledger σ C)) (e : Event) :
    (w.log e).forget = w.forget.log e := rfl

namespace Registry

variable (r : Registry σ C)

theorem resolve_recorded (name : String) :
    r.recorded.resolve name = (r.resolve name).map (Plugin.recorded name) := by
  have hget : r.recorded.plugins.get? name = (r.plugins.get? name).map (Plugin.recorded name) :=
    Table.get?_mapValues Plugin.recorded name r.plugins
  cases h : r.plugins.get? name <;> simp [resolve, hget, h, Except.map]

theorem register_recorded (name : String) (plugin : Plugin σ C) :
    r.recorded.register name (plugin.recorded name) =
      (r.register name plugin).map Registry.recorded := by
  have hget : r.recorded.plugins.get? name = (r.plugins.get? name).map (Plugin.recorded name) :=
    Table.get?_mapValues Plugin.recorded name r.plugins
  by_cases hblank : Text.isBlank name = true
  · simp [register, hblank, Except.map]
  · by_cases hused : (r.plugins.get? name).isSome = true
    · simp [register, hblank, hget, hused, Except.map]
    · have hfree : (r.recorded.plugins.get? name).isSome = false := by simpa [hget] using hused
      -- What is left is that recording commutes with the insertion into the table.
      simp only [register, hblank, hfree, hused, Bool.false_eq_true, dite_false, if_false,
        Except.map]
      congr 2
      exact (Table.mapValues_insert Plugin.recorded name plugin r.plugins).symm

end Registry

namespace Plugin

variable (label name : String) (plugin : Plugin σ C) (options : Fields)

theorem finish_recorded (made : Instance (Numbered C)) (w : World (Ledger σ C)) :
    ((plugin.recorded label).finish name options made w).1.map (Except.map Instance.forget) =
        (plugin.finish name options made.forget w.forget).1 ∧
      ((plugin.recorded label).finish name options made w).2.forget =
        (plugin.finish name options made.forget w.forget).2 := by
  rcases h : plugin.init made.config.config w.plugins.plugins with ⟨ready | message | _, s⟩ <;>
    simp [finish, recorded, Instance.forget, World.forget, h, Outcome.map, Except.map, World.log]

theorem configure_recorded (made : Instance (Numbered C)) (w : World (Ledger σ C)) :
    ((plugin.recorded label).configure name options made w).1.map (Except.map Instance.forget) =
        (plugin.configure name options made.forget w.forget).1 ∧
      ((plugin.recorded label).configure name options made w).2.forget =
        (plugin.configure name options made.forget w.forget).2 := by
  rcases h : plugin.bind options made.config.config w.plugins.plugins with ⟨bound | message | _, s⟩
  · have hbind : (plugin.recorded label).bind options made.config w.plugins =
        (.done ⟨made.config.id, bound⟩,
          ⟨s, w.plugins.created, w.plugins.entries ++
            [.bound made.config.id options made.config.config (.done bound)]⟩) := by
      simp [recorded, h, Outcome.map]
    have hplain : plugin.bind options made.forget.config w.forget.plugins = (.done bound, s) := h
    simp only [configure, hbind, hplain]
    exact finish_recorded label name plugin options _ _
  · simp [configure, recorded, Instance.forget, World.forget, h, Outcome.map, Except.map]
  · simp [configure, recorded, Instance.forget, World.forget, h, Outcome.map]

end Plugin

theorem Registry.apply_recorded (r : Registry σ C) (name : String) (options : Fields)
    (w : World (Ledger σ C)) :
    (r.recorded.apply name options w).1.map (Except.map Instance.forget) =
        (r.apply name options w.forget).1 ∧
      (r.recorded.apply name options w).2.forget = (r.apply name options w.forget).2 := by
  rcases hresolve : r.resolve name with error | plugin
  · simp [apply, resolve_recorded, hresolve, Except.map]
  · have hrecorded : r.recorded.resolve name = .ok (plugin.recorded name) := by
      rw [resolve_recorded, hresolve]
      rfl
    rcases hcreate : plugin.create w.plugins.plugins with ⟨fresh | message | _, s⟩
    · have hmake : (plugin.recorded name).make w =
          (.done ⟨w.created + 1, ⟨w.plugins.created + 1, fresh⟩, 0⟩,
            { w with
              plugins := ⟨s, w.plugins.created + 1,
                w.plugins.entries ++ [.created (w.plugins.created + 1) name fresh]⟩
              created := w.created + 1 }) := by
        simp [Plugin.make, Plugin.recorded, hcreate]
      have hplain : plugin.make w.forget =
          (.done ⟨w.created + 1, fresh, 0⟩,
            { w.forget with plugins := s, created := w.created + 1 }) := by
        simp [Plugin.make, World.forget, hcreate]
      simp only [apply, hresolve, hrecorded, hmake, hplain]
      exact Plugin.configure_recorded name name plugin options _ _
    · simp [apply, hresolve, hrecorded, Plugin.make, Plugin.recorded, World.forget, hcreate,
        Except.map]
    · simp [apply, hresolve, hrecorded, Plugin.make, Plugin.recorded, World.forget, hcreate]

theorem Registry.buildFrom_recorded (r : Registry σ C) (index : Nat) (ds : List Descriptor)
    (w : World (Ledger σ C)) :
    (r.recorded.buildFrom index ds w).1.map Built.forget = (r.buildFrom index ds w.forget).1 ∧
      (r.recorded.buildFrom index ds w).2.forget = (r.buildFrom index ds w.forget).2 := by
  induction ds generalizing index w with
  | nil => exact ⟨rfl, rfl⟩
  | cons d ds ih =>
    obtain ⟨hresult, hworld⟩ := r.apply_recorded d.name d.options w
    rcases h : r.recorded.apply d.name d.options w with ⟨_ | (error | filter), w'⟩ <;>
      rw [h] at hresult hworld
    · have hplain : r.apply d.name d.options w.forget = (none, w'.forget) :=
        Prod.ext hresult.symm hworld.symm
      rw [buildFrom_cons_panicked h, buildFrom_cons_panicked hplain]
      exact ⟨rfl, rfl⟩
    · have hplain : r.apply d.name d.options w.forget = (some (.error error), w'.forget) :=
        Prod.ext hresult.symm hworld.symm
      obtain ⟨hrest, hrestWorld⟩ := ih (index + 1) (fail ⟨index, error⟩ w')
      rw [buildFrom_cons_error h, buildFrom_cons_error hplain]
      refine ⟨?_, hrestWorld⟩
      simp only [← show (fail ⟨index, error⟩ w').forget = fail ⟨index, error⟩ w'.forget from rfl,
        ← hrest, Option.map_map]
      rfl
    · have hplain : r.apply d.name d.options w.forget = (some (.ok filter.forget), w'.forget) :=
        Prod.ext hresult.symm hworld.symm
      obtain ⟨hrest, hrestWorld⟩ := ih (index + 1) w'
      rw [buildFrom_cons_ok h, buildFrom_cons_ok hplain]
      refine ⟨?_, hrestWorld⟩
      simp only [← hrest, Option.map_map]
      rfl

/-- A session that records another one: all but the ledger is the same. -/
structure Session.Records (t : Session (Ledger σ C) (Numbered C)) (s : Session σ C) : Prop where
  registry : t.manager.registry = s.manager.registry.recorded
  policy : t.manager.policy = s.manager.policy
  active : t.manager.active.forget = s.manager.active
  world : t.world.forget = s.world

namespace Session

theorem initial_records (registry : Registry σ C) (policy : ReloadPolicy) (world : World σ) :
    (initial registry.recorded policy (world.recorded C)).Records (initial registry policy world) :=
  ⟨rfl, rfl, rfl, rfl⟩

theorem Records.settle {t : Session (Ledger σ C) (Numbered C)} {s : Session σ C} (h : t.Records s)
    (total : Nat) (b : Built (Numbered C)) (w : World (Ledger σ C)) :
    (t.manager.settle total b w).1 = (s.manager.settle total b.forget w.forget).1 ∧
      Records ⟨(t.manager.settle total b w).2.1, (t.manager.settle total b w).2.2⟩
        ⟨(s.manager.settle total b.forget w.forget).2.1,
          (s.manager.settle total b.forget w.forget).2.2⟩ := by
  have hgeneration : t.manager.active.generation = s.manager.active.generation :=
    congrArg Chain.generation h.active
  have hrejects : t.manager.rejects b = s.manager.rejects b.forget := by
    simp [Manager.rejects, Built.isComplete, Built.forget, h.policy]
  have hcomplete : b.isComplete = b.forget.isComplete := rfl
  have hlength : b.forget.filters.length = b.filters.length := List.length_map _
  cases hr : s.manager.rejects b.forget with
  | true =>
    simp only [Manager.settle, hrejects, hr, if_true, Manager.generation, hgeneration]
    exact ⟨rfl, h.registry, h.policy, h.active, rfl⟩
  | false =>
    simp only [Manager.settle, hrejects, hr, Bool.false_eq_true, if_false, Manager.generation,
      Manager.active_publish, hgeneration, hlength, hcomplete]
    refine ⟨rfl, h.registry, h.policy, ?_, ?_⟩
    · simp [Manager.publish, Chain.forget, Built.forget, hgeneration]
    · cases b.forget.isComplete <;> rfl

theorem Records.perform {t : Session (Ledger σ C) (Numbered C)} {s : Session σ C} (h : t.Records s)
    (op : Operation σ C) :
    (t.perform op.recorded).1.forget = (s.perform op).1 ∧
      (t.perform op.recorded).2.Records (s.perform op).2 := by
  cases op with
  | register name plugin =>
    have hregister : t.manager.registry.register name (plugin.recorded name) =
        (s.manager.registry.register name plugin).map Registry.recorded := by
      rw [h.registry, Registry.register_recorded]
    rcases hplain : s.manager.registry.register name plugin with error | registry <;>
      simp only [hplain, Except.map] at hregister <;>
      simp only [Operation.recorded, Session.perform, Manager.register, Registry.enter, hregister,
        hplain, Answer.forget, true_and]
    · exact ⟨h.registry, h.policy, h.active, h.world⟩
    · exact ⟨rfl, h.policy, h.active, by simp [h.world]⟩
  | apply name options =>
    obtain ⟨hresult, hworld⟩ :=
      s.manager.registry.apply_recorded name options t.world
    rw [h.world] at hresult hworld
    simp only [Operation.recorded, Session.perform, Manager.apply, h.registry, Answer.forget,
      hresult, true_and]
    exact ⟨h.registry, h.policy, h.active, hworld⟩
  | load ds =>
    obtain ⟨hresult, hworld⟩ := s.manager.registry.buildFrom_recorded 0 ds t.world
    rw [h.world] at hresult hworld
    rcases hbuild : s.manager.registry.recorded.buildFrom 0 ds t.world with ⟨_ | b, w⟩ <;>
      rw [hbuild] at hresult hworld
    · have hplain : s.manager.registry.buildFrom 0 ds s.world = (none, w.forget) :=
        Prod.ext hresult.symm hworld.symm
      simp only [Operation.recorded, Session.perform, Manager.load, Registry.build, h.registry,
        hbuild, hplain, Answer.forget, true_and]
      exact ⟨h.registry, h.policy, h.active, rfl⟩
    · have hplain : s.manager.registry.buildFrom 0 ds s.world = (some b.forget, w.forget) :=
        Prod.ext hresult.symm hworld.symm
      obtain ⟨hanswer, hafter⟩ := h.settle ds.length b w
      simp only [Operation.recorded, Session.perform, Manager.load, Registry.build, h.registry,
        hbuild, hplain, Answer.forget, hanswer, true_and]
      exact hafter

theorem Records.published {t : Session (Ledger σ C) (Numbered C)} {s : Session σ C}
    (h : t.Records s) (op : Operation σ C) :
    (t.moment op.recorded).published?.map Chain.forget = (s.moment op).published? := by
  obtain ⟨hanswer, hafter⟩ := h.perform op
  have hreport : (t.moment op.recorded).report? = (s.moment op).report? := by
    simp only [moment, Moment.report?, ← hanswer]
    cases (t.perform op.recorded).1 with
    | registered result => rfl
    | applied result? => rfl
    | loaded result? => rcases result? with _ | _ | _ <;> rfl
  simp only [Moment.published?, hreport, Option.map_map]
  simp only [Function.comp_def, moment, hafter.active]

/-- Recording changes no answer and no chain of a history. -/
theorem Records.history {t : Session (Ledger σ C) (Numbered C)} {s : Session σ C} (h : t.Records s)
    (ops : List (Operation σ C)) :
    let recorded := t.history (ops.map Operation.recorded)
    recorded.map (fun m => m.answer.forget) = (s.history ops).map Moment.answer ∧
      (recorded.filterMap Moment.published?).map Chain.forget =
        (s.history ops).filterMap Moment.published? := by
  induction ops generalizing t s with
  | nil => exact ⟨rfl, rfl⟩
  | cons op ops ih =>
    obtain ⟨hanswer, hafter⟩ := h.perform op
    obtain ⟨hanswers, hchains⟩ := ih hafter
    simp only [List.map_cons, history_cons, hanswers]
    refine ⟨congrArg (· :: _) hanswer, ?_⟩
    rw [List.filterMap_cons, List.filterMap_cons, ← h.published op, ← hchains]
    cases (t.moment op.recorded).published? <;> rfl

end Session

end FilterGateway
