import FilterGateway.Filter.Build

/-!
# The chain in force

A manager owns the chain in force. A load takes two steps: the filters are built without a look at
the chain, and then the load is settled, which either publishes the filters as the next generation
or, under the policy that rejects, keeps the chain as it is.
-/

namespace FilterGateway

/-- A published chain. The empty chain before the first load has generation 0. A generation stands
for a counter of 64 bits, which would start again after `2 ^ 64` loads; no run gets that far. -/
structure Chain (C : Type) where
  generation : Nat := 0
  filters : List (LoadedFilter C) := []

/-- What a load published, with the generation of the new chain as in `Chain`. -/
structure LoadReport where
  generation : Nat
  loaded : Nat
  skipped : List FilterFailure
deriving DecidableEq, Repr

structure Manager (σ C : Type) where
  registry : Registry σ C
  policy : ReloadPolicy := .reject
  active : Chain C := {}

namespace LoadedFilter

variable {C : Type}

/-- A filter of a chain as a term. -/
def term (f : LoadedFilter C) : String :=
  "LoadedFilter \x7b name: " ++ Text.quote f.name ++ " \x7d"

end LoadedFilter

namespace Chain

variable {C : Type}

def names (c : Chain C) : List String :=
  c.filters.map (·.name)

/-- A chain as a term. -/
def term (c : Chain C) : String :=
  "FilterChain \x7b generation: " ++ toString c.generation ++ ", filters: [" ++
    ", ".intercalate (c.filters.map LoadedFilter.term) ++ "] \x7d"

end Chain

namespace Manager

variable {σ C : Type}

def generation (m : Manager σ C) : Nat :=
  m.active.generation

/-- Whether a chain of this manager is the one in force. Each generation is published once, so it
tells chains apart. -/
def isActive (m : Manager σ C) (c : Chain C) : Bool :=
  c.generation == m.active.generation

/-- A single filter, which does not enter the chain. -/
def apply (m : Manager σ C) (name : String) (options : Fields) (w : World σ) :
    Option (Except FilterError (Instance C)) × World σ :=
  m.registry.apply name options w

/-- Registration with a running manager. -/
def register (m : Manager σ C) (name : String) (plugin : Plugin σ C) (w : World σ) :
    Except RegistryError Unit × Manager σ C × World σ :=
  let (result, registry, w) := m.registry.enter name plugin w
  (result, { m with registry }, w)

/-- Whether a load that ended like this is turned down. -/
def rejects (m : Manager σ C) (b : Built C) : Bool :=
  !b.isComplete && m.policy == .reject

/-- The manager with `filters` as the next chain. -/
def publish (m : Manager σ C) (filters : List (LoadedFilter C)) : Manager σ C :=
  { m with active := ⟨m.active.generation + 1, filters⟩ }

/-- The second step of a load of `total` descriptors, once they are built. -/
def settle (m : Manager σ C) (total : Nat) (b : Built C) (w : World σ) :
    Except LoadError LoadReport × Manager σ C × World σ :=
  if m.rejects b then
    (.error ⟨total, b.failures⟩, m,
      (w.log (.loadRejected b.failures.length total m.generation)).measure (·.countLoad .rejected))
  else
    let m := m.publish b.filters
    let loaded := b.filters.length
    let w :=
      if b.isComplete then
        (w.log (.chainReloaded m.generation loaded)).measure (·.countLoad .published)
      else
        (w.log (.chainReduced m.generation loaded b.failures.length)).measure (·.countLoad .reduced)
    (.ok ⟨m.generation, loaded, b.failures⟩, m, w.measure (·.setChainLength loaded))

/-- A load of descriptors. When a plugin panics there is no result and the chain stays. -/
def load (m : Manager σ C) (ds : List Descriptor) (w : World σ) :
    Option (Except LoadError LoadReport) × Manager σ C × World σ :=
  match m.registry.build ds w with
  | (none, w) => (none, m, w)
  | (some b, w) =>
    let (result, m, w) := m.settle ds.length b w
    (some result, m, w)

end Manager

end FilterGateway
