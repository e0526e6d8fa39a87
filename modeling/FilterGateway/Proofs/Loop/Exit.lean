import FilterGateway.Proofs.Loop.Updates

/-!
# How a reload loop ends

A reload loop ends at a turn of its own: because its channel is closed and nothing waits, or because
it hears of a shutdown. What the loop and its coordinator know is settled by the moves so far, in
whatever order they came.
-/

namespace FilterGateway

variable {σ C : Type}

def Move.isTrigger : Move → Bool
  | trigger => true
  | _ => false

/-- What a listener finds after some signals that it has not received. -/
def Reception.ofSignals : Nat → Reception
  | 0 => empty
  | 1 => signal
  | n + 2 => lagged (n + 1)

theorem Shutdown.receive_eq {s : Shutdown} {name : String} {seen n : Nat}
    (hseen : s.listeners.get? name = some seen) (hsent : s.sent = seen + n) :
    (s.receive name).1 = some (.ofSignals n) := by
  simp only [receive, hseen]
  rcases n with _ | _ | n
  · rw [if_pos (by omega)]
    rfl
  · rw [if_neg (by omega), if_pos hsent]
    rfl
  · have hmissed : s.sent - 1 - seen = n + 1 := by omega
    rw [if_neg (by omega), if_neg (by omega), hmissed]
    rfl

theorem Shutdown.trigger_eq {s : Shutdown} {name : String} {seen : Nat}
    (hseen : s.listeners.get? name = some seen) :
    s.trigger.2 = { s with sent := s.sent + 1 } := by
  have hsome : s.listeners ≠ [] := by
    rintro hnone
    rw [hnone] at hseen
    cases hseen
  simp [trigger, hsome]

theorem Service.shutdown?_withLoop (s : Service σ C) (loop : ReloadLoop σ C) :
    ((s.withLoop loop).shutdown? = none ↔ s.shutdown? = none) ∧
      (loop.isRunning = true → (s.withLoop loop).shutdown? = s.shutdown?) := by
  cases hrunning : loop.isRunning <;> simp [withLoop, hrunning]

namespace Course

theorem loads_append (c : Course σ C) (moves moves' : List Move) :
    c.loads (moves ++ moves') = c.loads moves ++ (c.follow moves).loads moves' := by
  induction moves generalizing c with
  | nil => rfl
  | cons m moves ih => simp [loads, ih]

theorem sent_append (c : Course σ C) (moves moves' : List Move) :
    c.sent (moves ++ moves') = c.sent moves ++ (c.follow moves).sent moves' := by
  induction moves generalizing c with
  | nil => rfl
  | cons m moves ih => simp [sent, ih]

/-! ### What the moves so far settle -/

/-- What is known after some moves since the loop began to listen. While it listens, it is behind
its coordinator by all signals so far. -/
structure Knows (c : Course σ C) (past : List Move) : Prop where
  closed : c.loop.isOpen = false ↔ .close ∈ past
  dropped : c.service.shutdown? = none ↔ .drop ∈ past
  signalled : c.loop.isRunning = true →
    (c.loop.isSignalled = true ↔ .trigger ∈ past ∨ .drop ∈ past)
  behind : c.loop.isRunning = true → ∀ s, c.service.shutdown? = some s →
    ∃ seen, s.listeners.get? Service.listener = some seen ∧
      s.sent = seen + past.countP Move.isTrigger

theorem coordinator_move {c : Course σ C} {m : Move} (hclose : m ≠ .close)
    (htrigger : m ≠ .trigger) (hdrop : m ≠ .drop) :
    ((c.move m).service.shutdown? = none ↔ c.service.shutdown? = none) ∧
      ((c.move m).loop.isRunning = true →
        c.loop.isRunning = true ∧ (c.move m).loop.isSignalled = c.loop.isSignalled ∧
          (c.move m).service.shutdown? = c.service.shutdown?) := by
  obtain ⟨s, loading?⟩ := c
  cases m with
  | close => exact absurd rfl hclose
  | trigger => exact absurd rfl htrigger
  | drop => exact absurd rfl hdrop
  | send config =>
    rcases s.loop.send_cases config with ⟨_, _, hsend⟩ | ⟨_, hsend⟩ <;>
      simp [move, loop, hsend]
  | select branch =>
    rcases loading? with _ | config
    · obtain ⟨hnone, hkept⟩ := s.shutdown?_withLoop (s.loop.select branch).2
      refine ⟨hnone, ?_⟩
      intro hrunning
      have hstill : (s.loop.select branch).2.isRunning = true := hrunning
      refine ⟨?_, ?_, hkept hrunning⟩ <;>
        rcases s.loop.select_cases branch with hselect | ⟨_, _, _, _, _, hselect⟩ |
          ⟨_, _, _, _, hselect⟩ | ⟨_, _, _, hselect⟩ <;>
        simp_all [move, loop, ReloadLoop.stop]
    · exact ⟨Iff.rfl, fun hrunning => ⟨hrunning, rfl, rfl⟩⟩
  | finish =>
    rcases loading? with _ | config
    · exact ⟨Iff.rfl, fun hrunning => ⟨hrunning, rfl, rfl⟩⟩
    · obtain ⟨hnone, hkept⟩ := s.shutdown?_withLoop (s.loop.load config)
      exact ⟨hnone, fun hrunning => ⟨hrunning, rfl, hkept hrunning⟩⟩

theorem Knows.move_of_ne {c : Course σ C} {past : List Move} (h : c.Knows past) {m : Move}
    (hclose : m ≠ .close) (htrigger : m ≠ .trigger) (hdrop : m ≠ .drop) :
    (c.move m).Knows (past ++ [m]) := by
  obtain ⟨hnone, hkept⟩ := coordinator_move (c := c) hclose htrigger hdrop
  have hcount : (past ++ [m]).countP Move.isTrigger = past.countP Move.isTrigger := by
    cases m <;> simp_all [Move.isTrigger]
  constructor
  · rw [isOpen_move hclose]
    simpa [hclose.symm] using h.closed
  · simpa [hnone, hdrop.symm] using h.dropped
  · intro hrunning
    obtain ⟨hbefore, hsame, _⟩ := hkept hrunning
    simpa [hsame, htrigger.symm, hdrop.symm] using h.signalled hbefore
  · intro hrunning s hs
    obtain ⟨hbefore, _, hsame⟩ := hkept hrunning
    rw [hcount]
    exact h.behind hbefore s (hsame.symm.trans hs)

theorem Knows.trigger {c : Course σ C} {past : List Move} (h : c.Knows past) :
    (c.move .trigger).Knows (past ++ [.trigger]) := by
  have hmove : (c.move .trigger).service = c.service.signal.2 := rfl
  have hopen : (c.move .trigger).loop.isOpen = c.loop.isOpen := isOpen_move Move.noConfusion
  have hclosed : (c.move .trigger).loop.isOpen = false ↔ .close ∈ past ++ [.trigger] := by
    simpa [hopen] using h.closed
  -- Without a coordinator nothing is sent, but the loop was told when the coordinator was dropped.
  rcases c.service.signal_cases with ⟨hnone, hsignal⟩ | ⟨shutdown, hsome, hsignal⟩
  · rw [hsignal] at hmove
    refine ⟨hclosed, ?_, ?_, ?_⟩
    · simpa [hmove] using h.dropped
    · intro hrunning
      have hdropped : Move.drop ∈ past := h.dropped.mp hnone
      have hsignalled := (h.signalled (by rwa [loop, hmove] at hrunning)).mpr (Or.inr hdropped)
      simpa [loop, hmove] using hsignalled
    · intro _ s hs
      rw [hmove, hnone] at hs
      cases hs
  · rw [hsignal] at hmove
    refine ⟨hclosed, ?_, ?_, ?_⟩
    · simpa [hmove, hsome] using h.dropped
    · intro hrunning
      have hbefore : c.loop.isRunning = true := by rwa [loop, hmove] at hrunning
      obtain ⟨seen, hseen, _⟩ := h.behind hbefore shutdown hsome
      simp [loop, hmove, Shutdown.isListening, hseen]
    · intro hrunning s hs
      have hbefore : c.loop.isRunning = true := by rwa [loop, hmove] at hrunning
      obtain ⟨seen, hseen, hsent⟩ := h.behind hbefore shutdown hsome
      rw [hmove, Shutdown.trigger_eq hseen] at hs
      cases hs
      refine ⟨seen, hseen, ?_⟩
      simp [hsent, Move.isTrigger, Nat.add_assoc]

theorem Knows.move {c : Course σ C} {past : List Move} (h : c.Knows past) (m : Move) :
    (c.move m).Knows (past ++ [m]) := by
  cases m with
  | close =>
    constructor
    · simp [Course.move, loop, ReloadLoop.close]
    · simpa [Course.move] using h.dropped
    · intro hrunning
      simpa [Course.move, loop, ReloadLoop.close] using h.signalled hrunning
    · intro hrunning s hs
      simpa [Move.isTrigger] using h.behind hrunning s hs
  | trigger => exact h.trigger
  | drop =>
    constructor
    · simpa [Course.move, loop, ReloadLoop.signal] using h.closed
    · simp [Course.move]
    · simp [Course.move, loop, ReloadLoop.signal]
    · intro _ s hs
      cases hs
  | _ => exact h.move_of_ne Move.noConfusion Move.noConfusion Move.noConfusion

theorem Knows.follow {c : Course σ C} {past : List Move} (h : c.Knows past) (moves : List Move) :
    (c.follow moves).Knows (past ++ moves) := by
  induction moves generalizing c past with
  | nil => simpa using h
  | cons m moves ih =>
    have hrest := ih (h.move m)
    simpa using hrest

theorem knows_start (coordinator : Shutdown) (m : Manager σ C) (w : World σ) :
    (start coordinator m w).Knows [] := by
  constructor
  · simp [start, loop, ReloadLoop.start]
  · simp [start]
  · simp [start, loop, ReloadLoop.start]
  · intro _ s hs
    cases hs
    exact ⟨coordinator.sent, Table.get?_insert_self .., rfl⟩

/-! ### The turn at which the loop ends -/

/-- Only a turn of the loop ends it, between two loads and for one of two reasons. -/
theorem exit_move {c : Course σ C} {m : Move} (hrunning : c.loop.isRunning = true)
    (hended : (c.move m).loop.isRunning = false) :
    ∃ branch, m = .select branch ∧ c.loading? = none ∧ (c.move m).loading? = none ∧
      (branch = .updates ∧ c.loop.queue = [] ∧ c.loop.isOpen = false ∨
        branch = .shutdown ∧ c.loop.isSignalled = true) := by
  have hstill : c.loop.isRunning ≠ false := by simp [hrunning]
  cases c.effect_move m with
  | fed _ _ _ hloop =>
    rw [hloop] at hended
    exact absurd hended hstill
  | taken _ _ _ _ _ hloop =>
    rw [hloop] at hended
    exact absurd hended hstill
  | loaded _ _ hloop =>
    rw [hloop] at hended
    exact absurd hended hstill
  | ended branch hmove hreason hidle _ _ hloading =>
    exact ⟨branch, hmove, hidle, hloading, hreason⟩

/-- A run that ended has come to its end at a turn of the loop. -/
theorem exists_exit {c : Course σ C} (hrunning : c.loop.isRunning = true) {moves : List Move}
    (hended : (c.follow moves).loop.isRunning = false) :
    ∃ before branch later, moves = before ++ .select branch :: later ∧
      (c.follow before).loop.isRunning = true ∧ (c.follow before).loading? = none ∧
      ((c.follow before).move (.select branch)).loop.isRunning = false ∧
      ((c.follow before).move (.select branch)).loading? = none ∧
      (branch = .updates ∧ (c.follow before).loop.queue = [] ∧
          (c.follow before).loop.isOpen = false ∨
        branch = .shutdown ∧ (c.follow before).loop.isSignalled = true) := by
  induction moves generalizing c with
  | nil => exact absurd (hrunning.symm.trans hended) Bool.noConfusion
  | cons m moves ih =>
    cases hnext : (c.move m).loop.isRunning with
    | true =>
      obtain ⟨before, branch, later, hsplit, hexit⟩ := ih hnext hended
      exact ⟨m :: before, branch, later, by simp [hsplit], hexit⟩
    | false =>
      obtain ⟨branch, rfl, hidle, hloading, hreason⟩ := exit_move hrunning hnext
      exact ⟨[], branch, moves, rfl, hrunning, hidle, hnext, hloading, hreason⟩

/-- Whatever others do and whichever branch the loop turns to, it loads a beginning of what is sent,
each update once and in order, and nothing after its end. It is told of a shutdown from the first
signal on, however many follow, and it ends for no other reason than a shutdown or a closed channel
with nothing left to load. -/
theorem loads_until_exit (coordinator : Shutdown) (m : Manager σ C) (w : World σ)
    (moves : List Move) :
    let first := start coordinator m w
    let last := first.follow moves
    let configs := first.loads moves
    let outcome := m.loads w (configs.map GatewayConfig.filters)
    first.sent moves = configs ++ last.pending ∧
      last.loop.manager = outcome.2.1 ∧ last.loop.world.quiet = outcome.2.2.quiet ∧
      (last.loop.isRunning = true →
        (last.loop.isReady .updates = true ↔ last.loop.queue ≠ [] ∨ .close ∈ moves) ∧
        (last.loop.isReady .shutdown = true ↔ .trigger ∈ moves ∨ .drop ∈ moves) ∧
        ∀ s, last.service.shutdown? = some s → (s.receive Service.listener).1 =
          some (.ofSignals (moves.countP Move.isTrigger))) ∧
      (last.loop.isRunning = false →
        last.loading? = none ∧
        ∃ before branch later, moves = before ++ .select branch :: later ∧
          (first.follow before).loop.isRunning = true ∧
          first.loads before = configs ∧ first.sent before = first.sent moves ∧
          (branch = .updates ∧ .close ∈ before ∧ configs = first.sent moves ∨
            branch = .shutdown ∧ (.trigger ∈ before ∨ .drop ∈ before))) := by
  intro first last configs outcome
  have hidle : first.loop.isRunning = false → first.loading? = none := fun _ => rfl
  have hknows : ∀ moves, (first.follow moves).Knows moves :=
    fun moves => (knows_start coordinator m w).follow moves
  have hflow : first.sent moves = configs ++ last.pending := first.pending_follow moves
  obtain ⟨hmanager, hquiet, _⟩ := follow_loads hidle moves (w := w) rfl
  refine ⟨hflow, hmanager, hquiet, ?_, ?_⟩
  · intro hrunning
    refine ⟨?_, ?_, ?_⟩
    · rw [← (hknows moves).closed]
      simp [ReloadLoop.isReady, last, show (first.follow moves).loop.isRunning = true from hrunning]
    · rw [← (hknows moves).signalled hrunning]
      simp [ReloadLoop.isReady, last, show (first.follow moves).loop.isRunning = true from hrunning]
    · intro s hs
      obtain ⟨seen, hseen, hsent⟩ := (hknows moves).behind hrunning s hs
      exact Shutdown.receive_eq hseen hsent
  · intro hended
    refine ⟨idle_follow hidle moves hended, ?_⟩
    obtain ⟨before, branch, later, rfl, hrunning, hwaits, hexit, hnothing, hreason⟩ :=
      exists_exit (c := first) rfl hended
    obtain ⟨_, _, _, hnoSent, hnoLoads⟩ := ended_follow hexit hnothing later
    have hloads : first.loads before = configs := by
      simp [configs, loads_append, loads, loadedBy, hnoLoads]
    have hsent : first.sent before = first.sent (before ++ .select branch :: later) := by
      simp [sent_append, sent, sentBy, hnoSent]
    refine ⟨before, branch, later, rfl, hrunning, hloads, hsent, ?_⟩
    rcases hreason with ⟨rfl, hqueue, hclosed⟩ | ⟨rfl, hsignalled⟩
    · left
      have hpending : (first.follow before).pending = [] := by simp [pending, hwaits, hqueue]
      have hall : first.sent before = first.loads before ++ (first.follow before).pending :=
        first.pending_follow before
      rw [hpending, List.append_nil] at hall
      exact ⟨rfl, (hknows before).closed.mp hclosed, by rw [← hloads, ← hsent, hall]⟩
    · exact Or.inr ⟨rfl, ((hknows before).signalled hrunning).mp hsignalled⟩

end Course

end FilterGateway
