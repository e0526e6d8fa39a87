import FilterGateway.Proofs.Manager.Load

/-!
# Histories of a manager

A session is a manager with the world that it works in. Its history lists, for each call in a
sequence of calls, the answer and the sessions before and after it, so that statements about all
chains that were ever published, and about all calls that published nothing, are statements about
the moments of a history.
-/

namespace FilterGateway

inductive Operation (σ C : Type) where
  | register (name : String) (plugin : Plugin σ C)
  | apply (name : String) (options : Fields)
  | load (ds : List Descriptor)

/-- What a call returns. A call has no result when a plugin panicked. -/
inductive Answer (C : Type) where
  | registered (result : Except RegistryError Unit)
  | applied (result? : Option (Except FilterError (Instance C)))
  | loaded (result? : Option (Except LoadError LoadReport))

structure Session (σ C : Type) where
  manager : Manager σ C
  world : World σ

structure Moment (σ C : Type) where
  before : Session σ C
  operation : Operation σ C
  answer : Answer C
  after : Session σ C

namespace Moment

variable {σ C : Type}

/-- The report of a load that published a chain. -/
def report? (m : Moment σ C) : Option LoadReport :=
  match m.answer with
  | .loaded (some (.ok report)) => some report
  | _ => none

def published? (m : Moment σ C) : Option (Chain C) :=
  m.report?.map fun _ => m.after.manager.active

/-- What became of each descriptor of a load. -/
def attempts (m : Moment σ C) : List (Option (Except FilterError (Instance C))) :=
  match m.operation with
  | .load ds => m.before.manager.registry.attempts 0 ds m.before.world
  | _ => []

/-- What a load built, whether it was published or not. -/
def built? (m : Moment σ C) : Option (Built C) :=
  match m.operation with
  | .load ds => (m.before.manager.registry.build ds m.before.world).1
  | _ => none

end Moment

namespace Session

variable {σ C : Type}

def initial (registry : Registry σ C) (policy : ReloadPolicy) (world : World σ) : Session σ C :=
  ⟨{ registry, policy }, world⟩

def perform (s : Session σ C) : Operation σ C → Answer C × Session σ C
  | .register name plugin =>
    let (result, manager, world) := s.manager.register name plugin s.world
    (.registered result, ⟨manager, world⟩)
  | .apply name options =>
    let (result?, world) := s.manager.apply name options s.world
    (.applied result?, { s with world })
  | .load ds =>
    let (result?, manager, world) := s.manager.load ds s.world
    (.loaded result?, ⟨manager, world⟩)

def moment (s : Session σ C) (op : Operation σ C) : Moment σ C :=
  ⟨s, op, (s.perform op).1, (s.perform op).2⟩

def finish (s : Session σ C) (ops : List (Operation σ C)) : Session σ C :=
  ops.foldl (fun s op => (s.perform op).2) s

def history (s : Session σ C) : List (Operation σ C) → List (Moment σ C)
  | [] => []
  | op :: ops => s.moment op :: history (s.perform op).2 ops

@[simp] theorem finish_nil (s : Session σ C) : s.finish [] = s := rfl

@[simp] theorem finish_cons (s : Session σ C) (op : Operation σ C) (ops : List (Operation σ C)) :
    s.finish (op :: ops) = (s.perform op).2.finish ops := rfl

@[simp] theorem finish_concat (s : Session σ C) (ops : List (Operation σ C)) (op : Operation σ C) :
    s.finish (ops ++ [op]) = ((s.finish ops).perform op).2 := by
  simp [finish]

@[simp] theorem history_nil (s : Session σ C) : s.history [] = [] := rfl

@[simp] theorem history_cons (s : Session σ C) (op : Operation σ C) (ops : List (Operation σ C)) :
    s.history (op :: ops) = s.moment op :: (s.perform op).2.history ops := rfl

@[simp] theorem history_concat (s : Session σ C) (ops : List (Operation σ C)) (op : Operation σ C) :
    s.history (ops ++ [op]) = s.history ops ++ [(s.finish ops).moment op] := by
  induction ops generalizing s with
  | nil => rfl
  | cons first ops ih => simp [ih]

theorem mem_history_iff {s : Session σ C} {ops : List (Operation σ C)} {m : Moment σ C} :
    m ∈ s.history ops ↔
      ∃ earlier op later, ops = earlier ++ op :: later ∧ m = (s.finish earlier).moment op := by
  induction ops generalizing s with
  | nil => simp
  | cons first ops ih =>
    simp only [history_cons, List.mem_cons, ih]
    constructor
    · rintro (rfl | ⟨earlier, op, later, rfl, rfl⟩)
      · exact ⟨[], first, ops, rfl, rfl⟩
      · exact ⟨first :: earlier, op, later, rfl, rfl⟩
    · rintro ⟨_ | ⟨head, earlier⟩, op, later, hops, hm⟩
      · obtain ⟨rfl, rfl⟩ := List.cons.inj hops
        exact Or.inl hm
      · obtain ⟨rfl, rfl⟩ := List.cons.inj hops
        exact Or.inr ⟨earlier, op, later, rfl, hm⟩

/-- A call publishes the next generation of what it built, or it leaves the chain in force. -/
theorem moment_cases (s : Session σ C) (op : Operation σ C) :
    ((s.moment op).report? = none ∧ (s.perform op).2.manager.active = s.manager.active) ∨
    (∃ b, (s.moment op).built? = some b ∧
      (s.moment op).report? =
        some ⟨s.manager.active.generation + 1, b.filters.length, b.failures⟩ ∧
      (s.perform op).2.manager.active = ⟨s.manager.active.generation + 1, b.filters⟩) := by
  cases op with
  | register name plugin =>
    left
    exact ⟨rfl, rfl⟩
  | apply name options =>
    left
    exact ⟨rfl, rfl⟩
  | load ds =>
    rcases s.manager.load_cases ds s.world with
      ⟨_, hresult, hm⟩ | ⟨b, _, _, hresult, hm⟩ | ⟨b, hb, _, hresult, hm⟩
    · left
      simp [moment, perform, Moment.report?, hresult, hm]
    · left
      simp [moment, perform, Moment.report?, hresult, hm]
    · right
      exact ⟨b, by simp [moment, perform, Moment.built?, Moment.report?, hb, hresult, hm]⟩

end Session

end FilterGateway
