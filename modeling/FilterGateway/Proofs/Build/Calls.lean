import FilterGateway.Proofs.Build.Attempts
import Mathlib.Data.List.Forall2

/-!
# The calls of a build

A traced plugin works as the plugin itself does and keeps a list of the calls of its code. Tracing
changes nothing, so the calls of a build can be read off: for each descriptor the plugin under its
name is asked for an instance, the options are bound onto that instance, and it is initialized, and
what fails or panics is the last call.
-/

namespace FilterGateway

/-- A call of the code of the plugin under a name, and what it came to. -/
inductive PluginCall (C : Type) where
  | create (plugin : String) (outcome : Outcome C)
  | bind (plugin : String) (options : Fields) (config : C) (outcome : Outcome C)
  | init (plugin : String) (config : C) (outcome : Outcome C)

/-- The state of plugins with the calls of their code. -/
structure Traced (σ C : Type) where
  plugins : σ
  calls : List (PluginCall C) := []

/-- An attempt to build a descriptor: the calls that were made for it and what it came to. -/
structure Attempt (C : Type) where
  calls : List (PluginCall C)
  result : Except FilterError (Instance C)

def Outcome.isPanic {α : Type} : Outcome α → Bool
  | panicked => true
  | _ => false

def Outcome.isFailure {α : Type} : Outcome α → Bool
  | failed _ => true
  | _ => false

namespace PluginCall

variable {C : Type}

def outcome : PluginCall C → Outcome C
  | create _ outcome | bind _ _ _ outcome | init _ _ outcome => outcome

/-- The stage of a build that makes such a call. -/
def stage : PluginCall C → FailureKind
  | create _ _ => .instantiation
  | bind _ _ _ _ => .configBind
  | init _ _ _ => .init

end PluginCall

variable {σ C : Type}

/-- The plugin with a list of its calls, in which it goes by `name`. -/
def Plugin.traced (name : String) (plugin : Plugin σ C) : Plugin (Traced σ C) C where
  create t :=
    let (outcome, plugins) := plugin.create t.plugins
    (outcome, ⟨plugins, t.calls ++ [.create name outcome]⟩)
  bind options c t :=
    let (outcome, plugins) := plugin.bind options c t.plugins
    (outcome, ⟨plugins, t.calls ++ [.bind name options c outcome]⟩)
  init c t :=
    let (outcome, plugins) := plugin.init c t.plugins
    (outcome, ⟨plugins, t.calls ++ [.init name c outcome]⟩)

/-- The world in which these calls were made. -/
def World.withCalls (w : World σ) (calls : List (PluginCall C)) : World (Traced σ C) :=
  ⟨⟨w.plugins, calls⟩, w.created, w.events, w.metrics⟩

namespace Registry

variable (r : Registry σ C)

/-- The registry with every plugin traced under its own name. -/
def traced : Registry (Traced σ C) C where
  plugins := r.plugins.mapValues Plugin.traced
  sorted := Table.sorted_mapValues _ r.sorted
  named entry h := by
    obtain ⟨original, horiginal, rfl⟩ := List.mem_map.mp h
    exact r.named original horiginal

/-- The calls of a build, in their order. -/
def calls (ds : List Descriptor) (w : World σ) : List (PluginCall C) :=
  (r.traced.build ds (w.withCalls [])).2.plugins.calls

/-- The first stage that failed for a descriptor for which these calls were made. -/
def firstFailure? (d : Descriptor) (calls : List (PluginCall C)) : Option FailureKind :=
  if r.contains d.name then (calls.find? fun call => call.outcome.isFailure).map PluginCall.stage
  else some .pluginNotFound

/-- What an attempt without a panic can be. Each stage is entered once, after those before it have
succeeded, and with what they made. -/
inductive Attempted (d : Descriptor) : Attempt C → Prop
  | unresolved (hname : r.contains d.name = false) :
    Attempted d ⟨[], .error (.pluginNotFound d.name)⟩
  | notCreated (hname : r.contains d.name = true) (source : String) :
    Attempted d ⟨[.create d.name (.failed source)], .error (.instantiation d.name source)⟩
  | notBound (hname : r.contains d.name = true) (fresh : C) (source : String) :
    Attempted d ⟨[.create d.name (.done fresh), .bind d.name d.options fresh (.failed source)],
      .error (.configBind d.name source)⟩
  | notInitialized (hname : r.contains d.name = true) (fresh bound : C) (source : String) :
    Attempted d ⟨[.create d.name (.done fresh), .bind d.name d.options fresh (.done bound),
      .init d.name bound (.failed source)], .error (.init d.name source)⟩
  | ready (hname : r.contains d.name = true) (id : Nat) (fresh bound final : C) :
    Attempted d ⟨[.create d.name (.done fresh), .bind d.name d.options fresh (.done bound),
      .init d.name bound (.done final)], .ok ⟨id, final, 1⟩⟩

variable {r}

theorem Attempted.error {d : Descriptor} {a : Attempt C} (h : r.Attempted d a) {e : FilterError}
    (he : a.result = .error e) :
    e.filterName = d.name ∧ r.firstFailure? d a.calls = some e.kind := by
  cases h with
  | ready => cases he
  | _ =>
    obtain rfl := Except.error.inj he
    exact ⟨rfl, by simp_all [firstFailure?, PluginCall.outcome, Outcome.isFailure,
      PluginCall.stage, FilterError.kind]⟩

variable (r)

theorem get?_traced (name : String) :
    r.traced.plugins.get? name = (r.plugins.get? name).map (Plugin.traced name) :=
  Table.get?_mapValues Plugin.traced name r.plugins

end Registry

/-- The same run of some code with the calls that were made in it. -/
def withCalls {α : Type} (run : α × World σ) (calls : List (PluginCall C)) :
    α × World (Traced σ C) :=
  (run.1, run.2.withCalls calls)

namespace Registry

variable (r : Registry σ C)

theorem apply_traced (d : Descriptor) (w : World σ) (earlier : List (PluginCall C)) :
    ∃ calls,
      r.traced.apply d.name d.options (w.withCalls earlier) =
        withCalls (r.apply d.name d.options w) (earlier ++ calls) ∧
      match (r.apply d.name d.options w).1 with
      | none => ∃ call ∈ calls, call.outcome.isPanic = true
      | some result => r.Attempted d ⟨calls, result⟩ := by
  have htraced := r.get?_traced d.name
  rcases hget : r.plugins.get? d.name with _ | plugin <;> rw [hget] at htraced
  · have hname : r.contains d.name = false := by simp [contains, hget]
    refine ⟨[], ?_, ?_⟩
    · simp [apply, resolve, hget, htraced, withCalls]
    · simpa [apply, resolve, hget] using Attempted.unresolved hname
  have hname : r.contains d.name = true := by simp [contains, hget]
  simp only [apply, resolve, htraced, hget, Option.map_some]
  -- The stages in their order; the call that does not succeed is the last one.
  rcases hcreate : plugin.create w.plugins with ⟨fresh | source | _, s⟩
  · let create : PluginCall C := .create d.name (.done fresh)
    rcases hbind : plugin.bind d.options fresh s with ⟨bound | source | _, s'⟩
    · let bind : PluginCall C := .bind d.name d.options fresh (.done bound)
      rcases hinit : plugin.init bound s' with ⟨final | source | _, s''⟩
      · refine ⟨[create, bind, .init d.name bound (.done final)], ?_⟩
        simpa [Plugin.make, Plugin.configure, Plugin.finish, Plugin.traced, withCalls,
          World.withCalls, World.log, create, bind, hcreate, hbind, hinit]
          using Attempted.ready hname (w.created + 1) fresh bound final
      · refine ⟨[create, bind, .init d.name bound (.failed source)], ?_⟩
        simpa [Plugin.make, Plugin.configure, Plugin.finish, Plugin.traced, withCalls,
          World.withCalls, World.log, create, bind, hcreate, hbind, hinit]
          using Attempted.notInitialized hname fresh bound source
      · refine ⟨[create, bind, .init d.name bound .panicked], ?_⟩
        simp [Plugin.make, Plugin.configure, Plugin.finish, Plugin.traced, withCalls,
          World.withCalls, create, bind, hcreate, hbind, hinit, PluginCall.outcome, Outcome.isPanic]
    · refine ⟨[create, .bind d.name d.options fresh (.failed source)], ?_⟩
      simpa [Plugin.make, Plugin.configure, Plugin.traced, withCalls, World.withCalls, create,
        hcreate, hbind] using Attempted.notBound hname fresh source
    · refine ⟨[create, .bind d.name d.options fresh .panicked], ?_⟩
      simp [Plugin.make, Plugin.configure, Plugin.traced, withCalls, World.withCalls, create,
        hcreate, hbind, PluginCall.outcome, Outcome.isPanic]
  · refine ⟨[.create d.name (.failed source)], ?_⟩
    simpa [Plugin.make, Plugin.traced, withCalls, World.withCalls, hcreate]
      using Attempted.notCreated hname source
  · refine ⟨[.create d.name .panicked], ?_⟩
    simp [Plugin.make, Plugin.traced, withCalls, World.withCalls, hcreate, PluginCall.outcome,
      Outcome.isPanic]

/-- Whether calls, unless one of them panicked, are those of an attempt for each descriptor in the
order of the list, with these results. -/
def Recounted (ds : List Descriptor) (calls : List (PluginCall C))
    (results : List (Option (Except FilterError (Instance C)))) : Prop :=
  (∀ call ∈ calls, call.outcome.isPanic = false) →
    ∃ attempts : List (Attempt C), calls = attempts.flatMap Attempt.calls ∧
      List.Forall₂ r.Attempted ds attempts ∧ results = attempts.map fun a => some a.result

variable {r} in
theorem Recounted.cons {d : Descriptor} {ds : List Descriptor} {first rest : List (PluginCall C)}
    {result : Except FilterError (Instance C)}
    {results : List (Option (Except FilterError (Instance C)))} (h : r.Recounted ds rest results)
    (hfirst : r.Attempted d ⟨first, result⟩) :
    r.Recounted (d :: ds) (first ++ rest) (some result :: results) := by
  intro hcalm
  obtain ⟨-, hcalmRest⟩ := List.forall_mem_append.mp hcalm
  obtain ⟨attempts, rfl, hattempted, rfl⟩ := h hcalmRest
  exact ⟨⟨first, result⟩ :: attempts, rfl, .cons hfirst hattempted, rfl⟩

/-- Tracing does not change a build, and its calls are those of its attempts. -/
theorem buildFrom_traced (index : Nat) (ds : List Descriptor) (w : World σ)
    (earlier : List (PluginCall C)) :
    ∃ calls,
      r.traced.buildFrom index ds (w.withCalls earlier) =
        withCalls (r.buildFrom index ds w) (earlier ++ calls) ∧
      r.Recounted ds calls (r.attempts index ds w) := by
  induction ds generalizing index w earlier with
  | nil => exact ⟨[], by simp [buildFrom, withCalls], fun _ => ⟨[], rfl, .nil, rfl⟩⟩
  | cons d ds ih =>
    obtain ⟨first, htraced, hfirst⟩ := r.apply_traced d w earlier
    rcases h : r.apply d.name d.options w with ⟨_ | (error | filter), w'⟩ <;>
      rw [h] at htraced hfirst
    · refine ⟨first, ?_, ?_⟩
      · rw [buildFrom_cons_panicked h, buildFrom_cons_panicked htraced]
        rfl
      · intro hcalm
        obtain ⟨call, hcall, hpanic⟩ := hfirst
        exact Bool.noConfusion (hpanic.symm.trans (hcalm call hcall))
    · obtain ⟨rest, hbuild, hrest⟩ := ih (index + 1) (fail ⟨index, error⟩ w') (earlier ++ first)
      refine ⟨first ++ rest, ?_, ?_⟩
      · have hfail : fail ⟨index, error⟩ (w'.withCalls (earlier ++ first)) =
            (fail ⟨index, error⟩ w').withCalls (earlier ++ first) := rfl
        rw [buildFrom_cons_error h, buildFrom_cons_error htraced, hfail, hbuild,
          List.append_assoc]
        rfl
      · rw [attempts, h]
        exact hrest.cons hfirst
    · obtain ⟨rest, hbuild, hrest⟩ := ih (index + 1) w' (earlier ++ first)
      refine ⟨first ++ rest, ?_, ?_⟩
      · rw [buildFrom_cons_ok h, buildFrom_cons_ok htraced, hbuild, List.append_assoc]
        rfl
      · rw [attempts, h]
        exact hrest.cons hfirst

end Registry

end FilterGateway
