import FilterGateway.Config.Basic
import FilterGateway.Telemetry.Event
import FilterGateway.Telemetry.Metrics

/-!
# Plugins

A plugin makes filters. Its code may keep a state of its own, which it shares with all plugins of a
registry, may report an error in its own words, and may end abnormally.
-/

namespace FilterGateway

/-- What a run of a plugin's code comes to. -/
inductive Outcome (α : Type) where
  | done (value : α)
  | failed (message : String)
  | panicked

/-- A maker of filters whose configurations are of type `C`, over a state of type `σ`. -/
structure Plugin (σ C : Type) where
  create : σ → Outcome C × σ
  bind : Fields → C → σ → Outcome C × σ
  init : C → σ → Outcome C × σ

/-- A filter that a plugin has made. No two of them have the same `id`; `inits` counts how often it
was initialized. -/
structure Instance (C : Type) where
  id : Nat
  config : C
  inits : Nat := 0
deriving Repr

/-- An initialized filter under the name of its descriptor. -/
structure LoadedFilter (C : Type) where
  name : String
  filter : Instance C
deriving Repr

/-- All that a load can change besides the chain: the state of the plugins, the number of filters
they have made, and what was logged and counted. -/
structure World (σ : Type) where
  plugins : σ
  created : Nat := 0
  events : List Event := []
  metrics : Metrics := .zero

namespace World

variable {σ : Type}

/-- The world with one more event in its log. -/
def log (w : World σ) (e : Event) : World σ :=
  { w with events := w.events ++ [e] }

def measure (w : World σ) (update : Metrics → Metrics) : World σ :=
  { w with metrics := update w.metrics }

/-- The world with an empty log. -/
def quiet (w : World σ) : World σ :=
  { w with events := [] }

@[simp] theorem events_log (w : World σ) (e : Event) : (w.log e).events = w.events ++ [e] := rfl

@[simp] theorem plugins_log (w : World σ) (e : Event) : (w.log e).plugins = w.plugins := rfl

@[simp] theorem created_log (w : World σ) (e : Event) : (w.log e).created = w.created := rfl

@[simp] theorem metrics_log (w : World σ) (e : Event) : (w.log e).metrics = w.metrics := rfl

@[simp] theorem events_measure (w : World σ) (update : Metrics → Metrics) :
    (w.measure update).events = w.events := rfl

@[simp] theorem plugins_measure (w : World σ) (update : Metrics → Metrics) :
    (w.measure update).plugins = w.plugins := rfl

@[simp] theorem created_measure (w : World σ) (update : Metrics → Metrics) :
    (w.measure update).created = w.created := rfl

@[simp] theorem metrics_measure (w : World σ) (update : Metrics → Metrics) :
    (w.measure update).metrics = update w.metrics := rfl

end World

end FilterGateway
