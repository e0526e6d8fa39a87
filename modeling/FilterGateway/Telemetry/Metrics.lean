import FilterGateway.Filter.Error

/-!
# Metrics

Loads are counted by their outcome and failed descriptors by their kind. The gauge holds the length
of the chain in force and is untouched until a chain is published.
-/

namespace FilterGateway

/-- How a load ends: with all filters, with some of them left out, or with nothing published. -/
inductive LoadOutcome where
  | published
  | reduced
  | rejected
deriving DecidableEq, Repr

namespace LoadOutcome

def all : List LoadOutcome :=
  [published, reduced, rejected]

def label : LoadOutcome → String
  | published => "published"
  | reduced => "partial"
  | rejected => "rejected"

end LoadOutcome

/-- The counters stand for numbers of 64 bits; no run makes `2 ^ 64` loads or failures. -/
structure Metrics where
  loads : LoadOutcome → Nat
  failures : FailureKind → Nat
  chainLength? : Option Nat

namespace Metrics

/-- Metrics that nothing has touched. -/
def zero : Metrics where
  loads _ := 0
  failures _ := 0
  chainLength? := none

def countLoad (m : Metrics) (outcome : LoadOutcome) : Metrics :=
  { m with loads := fun o => if o = outcome then m.loads o + 1 else m.loads o }

def countFailure (m : Metrics) (kind : FailureKind) : Metrics :=
  { m with failures := fun k => if k = kind then m.failures k + 1 else m.failures k }

def setChainLength (m : Metrics) (length : Nat) : Metrics :=
  { m with chainLength? := some length }

@[simp] theorem loads_countLoad (m : Metrics) (outcome o : LoadOutcome) :
    (m.countLoad outcome).loads o = if o = outcome then m.loads o + 1 else m.loads o := rfl

@[simp] theorem failures_countLoad (m : Metrics) (outcome : LoadOutcome) :
    (m.countLoad outcome).failures = m.failures := rfl

@[simp] theorem loads_countFailure (m : Metrics) (kind : FailureKind) :
    (m.countFailure kind).loads = m.loads := rfl

@[simp] theorem failures_countFailure (m : Metrics) (kind k : FailureKind) :
    (m.countFailure kind).failures k = if k = kind then m.failures k + 1 else m.failures k := rfl

/-- The metrics that were touched, by name. -/
def readings (m : Metrics) : List (String × Nat) :=
  let loads := LoadOutcome.all.map fun outcome =>
    ("filter_reloads_total|outcome=" ++ outcome.label, m.loads outcome)
  let failures := FailureKind.all.map fun kind =>
    ("filter_build_failures_total|kind=" ++ kind.label, m.failures kind)
  let length := m.chainLength?.toList.map fun length => ("filter_chain_length", length)
  (loads ++ failures).filter (fun reading => reading.2 != 0) ++ length

end Metrics

end FilterGateway
