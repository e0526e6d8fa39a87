import FilterGateway.Live.Service
import FilterGateway.Proofs.Manager.Log

/-!
# Schedules of a reload loop

A schedule is any sequence of what others do to a reload loop (updates that are sent, the end of the
channel, signals, the end of the coordinator) and of the loop's own turns. A load takes two turns,
so others may act while it runs. What is sent is loaded in order or still waits, and the coordinator
keeps a signal for the loop as soon as one was sent.
-/

namespace FilterGateway

variable {σ C : Type}

/-- What happens to a reload loop, or a turn of it: it selects a branch that is ready, or brings a
load to its end. -/
inductive Move where
  | send (config : GatewayConfig)
  | close
  | trigger
  | drop
  | select (branch : Branch)
  | finish

def Branch.ending : Branch → Event
  | updates => .updatesClosed
  | shutdown => .loopShutDown

/-- A service with the update that its loop is about to load. -/
structure Course (σ C : Type) where
  service : Service σ C
  loading? : Option GatewayConfig := none

/-- The service after a turn of its loop. A loop that has ended does not listen any more. -/
def Service.withLoop (s : Service σ C) (loop : ReloadLoop σ C) : Service σ C where
  loop := loop
  shutdown? := if loop.isRunning then s.shutdown? else s.shutdown?.map (·.unsubscribe listener)

@[simp] theorem Service.loop_withLoop (s : Service σ C) (loop : ReloadLoop σ C) :
    (s.withLoop loop).loop = loop := rfl

theorem Service.signal_cases (s : Service σ C) :
    (s.shutdown? = none ∧ s.signal.2 = s) ∨
    ∃ shutdown, s.shutdown? = some shutdown ∧
      s.signal.2 =
        { loop := { s.loop with
            isSignalled := shutdown.isListening listener || s.loop.isSignalled
            world := s.loop.world.log (.shutdownTriggered shutdown.trigger.1) }
          shutdown? := some shutdown.trigger.2 } := by
  rcases hshutdown : s.shutdown? with _ | shutdown
  · exact Or.inl ⟨rfl, by simp [signal, hshutdown]⟩
  · refine Or.inr ⟨shutdown, rfl, ?_⟩
    cases hlistening : shutdown.isListening listener <;>
      simp [signal, hshutdown, hlistening, ReloadLoop.signal, ReloadLoop.log]

namespace ReloadLoop

/-- What a turn of the loop comes to: nothing is ready, or an update is taken, or the loop ends. -/
theorem select_cases (l : ReloadLoop σ C) (branch : Branch) :
    l.select branch = (none, l) ∨
    (∃ config queue, branch = .updates ∧ l.isRunning = true ∧ l.queue = config :: queue ∧
      l.select branch = (some config, { l with queue })) ∨
    (branch = .updates ∧ l.isRunning = true ∧ l.queue = [] ∧ l.isOpen = false ∧
      l.select branch = (none, l.stop .updatesClosed)) ∨
    (branch = .shutdown ∧ l.isRunning = true ∧ l.isSignalled = true ∧
      l.select branch = (none, l.stop .loopShutDown)) := by
  cases hready : l.isReady branch with
  | false => exact Or.inl (by simp [select, hready])
  | true =>
    right
    cases branch with
    | updates =>
      rcases hqueue : l.queue with _ | ⟨config, queue⟩
      · have hended : l.isRunning = true ∧ l.isOpen = false := by
          simpa [isReady, hqueue] using hready
        exact Or.inr (Or.inl ⟨rfl, hended.1, rfl, hended.2, by simp [select, hready, hqueue]⟩)
      · have hrunning : l.isRunning = true := by simpa [isReady, hqueue] using hready
        exact Or.inl ⟨config, queue, rfl, hrunning, rfl, by simp [select, hready, hqueue]⟩
    | shutdown =>
      have hsignalled : l.isRunning = true ∧ l.isSignalled = true := by
        simpa [isReady] using hready
      exact Or.inr (Or.inr ⟨rfl, hsignalled.1, hsignalled.2, by simp [select, hready]⟩)

theorem send_cases (l : ReloadLoop σ C) (config : GatewayConfig) :
    (l.isRunning = true ∧ l.isOpen = true ∧
      l.send config = (true, { l with queue := l.queue ++ [config] })) ∨
    ((l.isRunning = false ∨ l.isOpen = false) ∧ l.send config = (false, l)) := by
  cases hrunning : l.isRunning <;> cases hopen : l.isOpen <;> simp [send, hrunning, hopen]

end ReloadLoop

namespace Course

def loop (c : Course σ C) : ReloadLoop σ C :=
  c.service.loop

/-- A loop that has just started and listens to a coordinator. -/
def start (coordinator : Shutdown) (m : Manager σ C) (w : World σ) : Course σ C where
  service := { loop := .start m w, shutdown? := some (coordinator.subscribe Service.listener) }

def move (c : Course σ C) : Move → Course σ C
  | .send config => { c with service := { c.service with loop := (c.loop.send config).2 } }
  | .close => { c with service := { c.service with loop := c.loop.close } }
  | .trigger => { c with service := c.service.signal.2 }
  | .drop => { c with service := { loop := c.loop.signal, shutdown? := none } }
  | .select branch =>
    match c.loading? with
    | some _ => c
    | none =>
      let (loading?, loop) := c.loop.select branch
      ⟨c.service.withLoop loop, loading?⟩
  | .finish =>
    match c.loading? with
    | some config => ⟨c.service.withLoop (c.loop.load config), none⟩
    | none => c

def follow (c : Course σ C) (moves : List Move) : Course σ C :=
  moves.foldl move c

/-- The updates that were sent and are not loaded yet. -/
def pending (c : Course σ C) : List GatewayConfig :=
  c.loading?.toList ++ c.loop.queue

/-- The update that a move sends, if it can be sent. -/
def sentBy (c : Course σ C) : Move → List GatewayConfig
  | .send config => if (c.loop.send config).1 then [config] else []
  | _ => []

def loadedBy (c : Course σ C) : Move → List GatewayConfig
  | .finish => c.loading?.toList
  | _ => []

def sent (c : Course σ C) : List Move → List GatewayConfig
  | [] => []
  | m :: moves => c.sentBy m ++ sent (c.move m) moves

def loads (c : Course σ C) : List Move → List GatewayConfig
  | [] => []
  | m :: moves => c.loadedBy m ++ loads (c.move m) moves

@[simp] theorem follow_nil (c : Course σ C) : c.follow [] = c := rfl

@[simp] theorem follow_cons (c : Course σ C) (m : Move) (moves : List Move) :
    c.follow (m :: moves) = (c.move m).follow moves := rfl

theorem follow_append (c : Course σ C) (moves moves' : List Move) :
    c.follow (moves ++ moves') = (c.follow moves).follow moves' :=
  List.foldl_append ..

/-- What a move comes to. Others only feed the loop: their moves add to its queue and tell it about
the channel and the coordinator. -/
inductive Effect (c : Course σ C) (m : Move) (next : Course σ C) : Prop where
  | fed (isOpen isSignalled : Bool) (world : World σ)
      (hloop : next.loop =
        { c.loop with queue := c.loop.queue ++ c.sentBy m, isOpen, isSignalled, world })
      (hopen : isOpen = true ↔ c.loop.isOpen = true ∧ m ≠ .close)
      (hsignalled : isSignalled = true → c.loop.isSignalled = true ∨ m = .trigger ∨ m = .drop)
      (hquiet : world.quiet = c.loop.world.quiet)
      (hevents : world.loopEvents = c.loop.world.loopEvents)
      (hloading : next.loading? = c.loading?) (hloaded : c.loadedBy m = [])
      (hsent : c.loop.isRunning = false → c.sentBy m = [])
  | taken (config : GatewayConfig) (queue : List GatewayConfig)
      (hidle : c.loading? = none) (hrunning : c.loop.isRunning = true)
      (hqueue : c.loop.queue = config :: queue) (hloop : next.loop = { c.loop with queue })
      (hloading : next.loading? = some config) (hsent : c.sentBy m = [])
      (hloaded : c.loadedBy m = [])
  | loaded (config : GatewayConfig) (hloading : c.loading? = some config)
      (hloop : next.loop = c.loop.load config) (hidle : next.loading? = none)
      (hsent : c.sentBy m = []) (hloaded : c.loadedBy m = [config])
  | ended (branch : Branch) (hmove : m = .select branch)
      (hreason : branch = .updates ∧ c.loop.queue = [] ∧ c.loop.isOpen = false ∨
        branch = .shutdown ∧ c.loop.isSignalled = true)
      (hidle : c.loading? = none) (hrunning : c.loop.isRunning = true)
      (hloop : next.loop = c.loop.stop branch.ending) (hloading : next.loading? = none)
      (hsent : c.sentBy m = []) (hloaded : c.loadedBy m = [])

theorem effect_of_same {c next : Course σ C} {m : Move} (hm : m ≠ .close)
    (hloop : next.loop = c.loop) (hloading : next.loading? = c.loading?) (hsent : c.sentBy m = [])
    (hloaded : c.loadedBy m = []) : Effect c m next := by
  refine .fed c.loop.isOpen c.loop.isSignalled c.loop.world ?_ ?_ Or.inl rfl rfl hloading hloaded
    (fun _ => hsent)
  · simp [hloop, hsent]
  · simp [hm]

theorem effect_send (c : Course σ C) (config : GatewayConfig) :
    Effect c (.send config) (c.move (.send config)) := by
  have hmove : (c.move (.send config)).loop = (c.loop.send config).2 := rfl
  rcases c.loop.send_cases config with ⟨hrunning, _, hsend⟩ | ⟨_, hsend⟩
  · refine .fed c.loop.isOpen c.loop.isSignalled c.loop.world ?_ (by simp) Or.inl rfl rfl rfl rfl ?_
    · simp [hmove, hsend, sentBy]
    · simp [hrunning]
  · rw [hsend] at hmove
    exact effect_of_same Move.noConfusion hmove rfl (by simp [sentBy, hsend]) rfl

theorem effect_trigger (c : Course σ C) : Effect c .trigger (c.move .trigger) := by
  have hmove : (c.move .trigger).loop = c.service.signal.2.loop := rfl
  rcases c.service.signal_cases with ⟨_, hsignal⟩ | ⟨shutdown, _, hsignal⟩ <;>
    rw [hsignal] at hmove
  · exact effect_of_same Move.noConfusion hmove rfl rfl rfl
  · let w := c.loop.world.log (.shutdownTriggered shutdown.trigger.1)
    have hevents : w.loopEvents = c.loop.world.loopEvents := by simp [w, Event.component]
    refine .fed c.loop.isOpen (shutdown.isListening Service.listener || c.loop.isSignalled) w ?_
      (by simp) (fun _ => Or.inr (Or.inl rfl)) rfl hevents rfl rfl (fun _ => rfl)
    rw [hmove]
    simp [sentBy, loop, w]

theorem effect_select (c : Course σ C) (branch : Branch) :
    Effect c (.select branch) (c.move (.select branch)) := by
  obtain ⟨s, _ | config⟩ := c
  · have hmove : (⟨s, none⟩ : Course σ C).move (.select branch) =
        ⟨s.withLoop (s.loop.select branch).2, (s.loop.select branch).1⟩ := rfl
    rw [hmove]
    rcases s.loop.select_cases branch with hselect |
      ⟨config, queue, rfl, hrunning, hqueue, hselect⟩ |
      ⟨rfl, hrunning, hqueue, hclosed, hselect⟩ | ⟨rfl, hrunning, hsignalled, hselect⟩ <;>
      rw [hselect]
    · exact effect_of_same Move.noConfusion rfl rfl rfl rfl
    · exact .taken config queue rfl hrunning hqueue rfl rfl rfl rfl
    · exact .ended .updates rfl (Or.inl ⟨rfl, hqueue, hclosed⟩) rfl hrunning rfl rfl rfl rfl
    · exact .ended .shutdown rfl (Or.inr ⟨rfl, hsignalled⟩) rfl hrunning rfl rfl rfl rfl
  · exact effect_of_same Move.noConfusion rfl rfl rfl rfl

theorem effect_finish (c : Course σ C) : Effect c .finish (c.move .finish) := by
  obtain ⟨s, _ | config⟩ := c
  · exact effect_of_same Move.noConfusion rfl rfl rfl rfl
  · exact .loaded config rfl rfl rfl rfl rfl

theorem effect_move (c : Course σ C) (m : Move) : Effect c m (c.move m) := by
  cases m with
  | send config => exact c.effect_send config
  | close =>
    refine .fed false c.loop.isSignalled c.loop.world ?_ (by simp) Or.inl rfl rfl rfl rfl
      (fun _ => rfl)
    simp [loop, move, sentBy, ReloadLoop.close]
  | trigger => exact c.effect_trigger
  | drop =>
    refine .fed c.loop.isOpen true c.loop.world ?_ (by simp) (fun _ => Or.inr (Or.inr rfl)) rfl rfl
      rfl rfl (fun _ => rfl)
    simp [loop, move, sentBy, ReloadLoop.signal]
  | select branch => exact c.effect_select branch
  | finish => exact c.effect_finish

theorem pending_move (c : Course σ C) (m : Move) :
    c.pending ++ c.sentBy m = c.loadedBy m ++ (c.move m).pending := by
  cases c.effect_move m with
  | fed _ _ _ hloop _ _ _ _ hloading hloaded => simp [pending, hloop, hloading, hloaded]
  | taken config queue hidle _ hqueue hloop hloading hsent hloaded =>
    simp [pending, hidle, hqueue, hloop, hloading, hsent, hloaded]
  | loaded config hloading hloop hidle hsent hloaded =>
    simp [pending, hloading, hloop, hidle, hsent, hloaded, ReloadLoop.load]
  | ended branch _ _ hidle _ hloop hloading hsent hloaded =>
    simp [pending, hidle, hloop, hloading, hsent, hloaded, ReloadLoop.stop, ReloadLoop.log]

/-- What is sent is loaded in the order in which it was sent, or still waits. -/
theorem pending_follow (c : Course σ C) (moves : List Move) :
    c.pending ++ c.sent moves = c.loads moves ++ (c.follow moves).pending := by
  induction moves generalizing c with
  | nil => simp [sent, loads]
  | cons m moves ih =>
    calc c.pending ++ c.sent (m :: moves)
        = (c.pending ++ c.sentBy m) ++ (c.move m).sent moves := by simp [sent]
      _ = c.loadedBy m ++ ((c.move m).pending ++ (c.move m).sent moves) := by
          rw [pending_move, List.append_assoc]
      _ = c.loads (m :: moves) ++ (c.follow (m :: moves)).pending := by
          rw [ih]
          simp [loads]

theorem ended_move {c : Course σ C} (hended : c.loop.isRunning = false) (hidle : c.loading? = none)
    (m : Move) :
    (c.move m).loop.isRunning = false ∧ (c.move m).loading? = none ∧
      (c.move m).loop.manager = c.loop.manager ∧ c.sentBy m = [] ∧ c.loadedBy m = [] := by
  have hstopped : c.loop.isRunning ≠ true := by simp [hended]
  -- Only others still move: they feed a loop that takes nothing.
  cases c.effect_move m with
  | fed _ _ _ hloop _ _ _ _ hloading hloaded hsent =>
    rw [hloop, hloading]
    exact ⟨hended, hidle, rfl, hsent hended, hloaded⟩
  | taken _ _ _ hrunning => exact absurd hrunning hstopped
  | loaded _ hloading => exact absurd (hidle.symm.trans hloading) (Option.some_ne_none _).symm
  | ended _ _ _ _ hrunning => exact absurd hrunning hstopped

theorem ended_follow {c : Course σ C} (hended : c.loop.isRunning = false)
    (hidle : c.loading? = none) (moves : List Move) :
    (c.follow moves).loop.isRunning = false ∧ (c.follow moves).loading? = none ∧
      (c.follow moves).loop.manager = c.loop.manager ∧ c.sent moves = [] ∧ c.loads moves = [] := by
  induction moves generalizing c with
  | nil => exact ⟨hended, hidle, rfl, rfl, rfl⟩
  | cons m moves ih =>
    obtain ⟨hended', hidle', hmanager, hsent, hloaded⟩ := ended_move hended hidle m
    obtain ⟨hlast, hidleLast, hkept, hnoSent, hnoLoads⟩ := ih hended' hidle'
    exact ⟨hlast, hidleLast, hkept.trans hmanager, by simp [sent, hsent, hnoSent],
      by simp [loads, hloaded, hnoLoads]⟩

theorem idle_move {c : Course σ C} (h : c.loop.isRunning = false → c.loading? = none) (m : Move) :
    (c.move m).loop.isRunning = false → (c.move m).loading? = none := by
  intro hended
  cases c.effect_move m with
  | fed _ _ _ hloop _ _ _ _ hloading =>
    rw [hloop] at hended
    exact hloading.trans (h hended)
  | taken _ _ _ hrunning _ hloop =>
    rw [hloop] at hended
    exact absurd (hrunning.symm.trans hended) Bool.noConfusion
  | loaded _ _ _ hidle => exact hidle
  | ended _ _ _ _ _ _ hloading => exact hloading

theorem idle_follow {c : Course σ C} (h : c.loop.isRunning = false → c.loading? = none)
    (moves : List Move) :
    (c.follow moves).loop.isRunning = false → (c.follow moves).loading? = none := by
  induction moves generalizing c with
  | nil => exact h
  | cons m moves ih => exact ih (idle_move h m)

def drain (n : Nat) : List Move :=
  (List.replicate n [Move.select .updates, .finish]).flatten

theorem select_finish {c : Course σ C} (hidle : c.loading? = none) (branch : Branch) :
    (c.follow [.select branch, .finish]).loading? = none ∧
      (c.follow [.select branch, .finish]).loop = c.loop.advance branch := by
  obtain ⟨s, _ | config⟩ := c
  · rcases h : s.loop.select branch with ⟨_ | config, loop⟩ <;>
      simp [follow, move, Course.loop, ReloadLoop.advance, h]
  · cases hidle

theorem follow_drain {c : Course σ C} (hidle : c.loading? = none) (n : Nat) :
    (c.follow (drain n)).loading? = none ∧
      (c.follow (drain n)).loop =
        (List.replicate n Branch.updates).foldl ReloadLoop.advance c.loop := by
  induction n generalizing c with
  | zero => exact ⟨hidle, rfl⟩
  | succ n ih =>
    obtain ⟨hnext, hloop⟩ := select_finish hidle .updates
    obtain ⟨hlast, hrest⟩ := ih hnext
    refine ⟨hlast, ?_⟩
    rw [hloop] at hrest
    exact hrest

theorem follow_settle {c : Course σ C} (hidle : c.loading? = none) :
    (c.follow (drain (c.loop.queue.length + 1) ++ [.select .shutdown, .finish])).loop =
      c.loop.settle := by
  obtain ⟨hnext, hloop⟩ := follow_drain hidle (c.loop.queue.length + 1)
  rw [follow_append, (select_finish hnext .shutdown).2, hloop]
  rfl

end Course

end FilterGateway
