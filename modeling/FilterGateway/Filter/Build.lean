import FilterGateway.Filter.Registry

/-!
# Building filters

A descriptor is built in four stages, and the first one that fails settles its error. A list of
descriptors is built in order: a failure is logged and counted, and the next descriptor is
attempted. When a plugin ends abnormally nothing is built, but what happened before stays.
-/

namespace FilterGateway

/-- What became of a list of descriptors: the filters that were built and the descriptors that
failed, both in the order of the list. -/
structure Built (C : Type) where
  filters : List (LoadedFilter C) := []
  failures : List FilterFailure := []

def Built.isComplete {C : Type} (b : Built C) : Bool :=
  b.failures.isEmpty

namespace Plugin

variable {σ C : Type} (plugin : Plugin σ C)

/-- A fresh filter, numbered by the filters made so far. -/
def make (w : World σ) : Outcome (Instance C) × World σ :=
  match plugin.create w.plugins with
  | (.panicked, plugins) => (.panicked, { w with plugins })
  | (.failed source, plugins) => (.failed source, { w with plugins })
  | (.done config, plugins) =>
    (.done { id := w.created + 1, config }, { w with plugins, created := w.created + 1 })

/-- The filter `made` once it is initialized. -/
def finish (name : String) (options : Fields) (made : Instance C) (w : World σ) :
    Option (Except FilterError (Instance C)) × World σ :=
  match plugin.init made.config w.plugins with
  | (.panicked, plugins) => (none, { w with plugins })
  | (.failed source, plugins) => (some (.error (.init name source)), { w with plugins })
  | (.done config, plugins) =>
    (some (.ok { made with config, inits := made.inits + 1 }),
      { w with plugins }.log (.filterInitialized name options.length))

/-- The filter `made` once its options are bound and it is initialized. -/
def configure (name : String) (options : Fields) (made : Instance C) (w : World σ) :
    Option (Except FilterError (Instance C)) × World σ :=
  match plugin.bind options made.config w.plugins with
  | (.panicked, plugins) => (none, { w with plugins })
  | (.failed source, plugins) => (some (.error (.configBind name source)), { w with plugins })
  | (.done config, plugins) =>
    plugin.finish name options { made with config } { w with plugins }

end Plugin

namespace Registry

variable {σ C : Type} (r : Registry σ C)

/-- A ready filter called `name`, configured with `options`; nothing when a plugin panics. -/
def apply (name : String) (options : Fields) (w : World σ) :
    Option (Except FilterError (Instance C)) × World σ :=
  match r.resolve name with
  | .error e => (some (.error e), w)
  | .ok plugin =>
    match plugin.make w with
    | (.panicked, w) => (none, w)
    | (.failed source, w) => (some (.error (.instantiation name source)), w)
    | (.done made, w) => plugin.configure name options made w

/-- The failure of a descriptor, logged and counted. -/
def fail (failure : FilterFailure) (w : World σ) : World σ :=
  (w.log (.buildFailed failure)).measure (·.countFailure failure.error.kind)

/-- The filters of descriptors whose first one has the position `index`. -/
def buildFrom (index : Nat) : List Descriptor → World σ → Option (Built C) × World σ
  | [], w => (some {}, w)
  | d :: ds, w =>
    match r.apply d.name d.options w with
    | (none, w) => (none, w)
    | (some (.ok filter), w) =>
      match buildFrom (index + 1) ds w with
      | (none, w) => (none, w)
      | (some b, w) => (some { b with filters := ⟨d.name, filter⟩ :: b.filters }, w)
    | (some (.error error), w) =>
      match buildFrom (index + 1) ds (fail ⟨index, error⟩ w) with
      | (none, w) => (none, w)
      | (some b, w) => (some { b with failures := ⟨index, error⟩ :: b.failures }, w)

/-- The filters of a list of descriptors; nothing when a plugin panics. -/
def build (ds : List Descriptor) (w : World σ) : Option (Built C) × World σ :=
  r.buildFrom 0 ds w

end Registry

end FilterGateway
