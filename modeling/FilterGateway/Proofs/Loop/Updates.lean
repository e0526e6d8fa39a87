import FilterGateway.Catalogue.Plugins
import FilterGateway.Proofs.Loop.Schedule

/-!
# What a reload loop does with its updates

A reload loop does to its manager what loads of its updates one after the other do, whatever others
do in between, and logs one verdict on each. When nobody disturbs it, it ends once the channel is
closed, and has then loaded every update.
-/

namespace FilterGateway

variable {σ C : Type}

namespace Manager

/-- Loads one after the other. A load in which a plugin panics leaves the manager as it was. -/
def loads (m : Manager σ C) (w : World σ) :
    List (List Descriptor) → List (Option (Except LoadError LoadReport)) × Manager σ C × World σ
  | [] => ([], m, w)
  | ds :: rest =>
    match m.load ds w with
    | (none, _, w) =>
      let (results, last, w) := loads m w rest
      (none :: results, last, w)
    | (some result, next, w) =>
      let (results, last, w) := loads next w rest
      (some result :: results, last, w)

theorem loads_cons (m : Manager σ C) (w : World σ) (ds : List Descriptor)
    (rest : List (List Descriptor)) :
    m.loads w (ds :: rest) =
      ((m.load ds w).1 :: ((m.load ds w).2.1.loads (m.load ds w).2.2 rest).1,
        ((m.load ds w).2.1.loads (m.load ds w).2.2 rest).2) := by
  rcases m.load_cases ds w with ⟨_, hresult, hm⟩ | ⟨b, _, _, hresult, _⟩ | ⟨b, _, _, hresult, _⟩ <;>
    rcases hload : m.load ds w with ⟨result?, next, w'⟩ <;> rw [hload] at hresult <;>
    obtain rfl := hresult
  · rw [hload] at hm
    obtain rfl := hm
    simp only [loads, hload]
  · simp only [loads, hload]
  · simp only [loads, hload]

theorem length_loads (m : Manager σ C) (w : World σ) (dss : List (List Descriptor)) :
    (m.loads w dss).1.length = dss.length := by
  induction dss generalizing m w with
  | nil => rfl
  | cons ds rest ih => simp [loads_cons, ih]

end Manager

/-- What the loop logs about an update and what came of its load. -/
def updateEvents (policy : ReloadPolicy) (config : GatewayConfig)
    (result? : Option (Except LoadError LoadReport)) : List Event :=
  (if config.reload.policy = policy then [] else [.policyFixed policy config.reload.policy]) ++
    [updateEvent result?]

@[simp] theorem component_updateEvent (result? : Option (Except LoadError LoadReport)) :
    (updateEvent result?).component = .reload := by
  rcases result? with _ | (e | report) <;> rfl

theorem Manager.update_eq (m : Manager σ C) (config : GatewayConfig) {w w' : World σ}
    (h : w.quiet = w'.quiet) :
    (m.update config w).1 = (m.load config.filters w').2.1 ∧
      (m.update config w).2.quiet = (m.load config.filters w').2.2.quiet ∧
      (m.update config w).2.loopEvents =
        w.loopEvents ++ updateEvents m.policy config (m.load config.filters w').1 := by
  let noted := m.notePolicy config.reload.policy w
  have hnoted : noted.quiet = w'.quiet ∧ noted.loopEvents = w.loopEvents ++
      if config.reload.policy = m.policy then [] else
        [.policyFixed m.policy config.reload.policy] := by
    by_cases hpolicy : config.reload.policy = m.policy
    · simpa [noted, notePolicy, hpolicy] using h
    · rw [← h]
      simp [noted, notePolicy, hpolicy, Event.component]
      rfl
  obtain ⟨hresult, hmanager, hquiet⟩ := m.load_congr config.filters hnoted.1
  refine ⟨hmanager, hquiet, ?_⟩
  have hevents := m.loopEvents_load config.filters noted
  calc (m.update config w).2.loopEvents
      = (m.load config.filters noted).2.2.loopEvents ++
          [updateEvent (m.load config.filters noted).1] := by simp [update, noted]
    _ = w.loopEvents ++ updateEvents m.policy config (m.load config.filters w').1 := by
        rw [hevents, hnoted.2, hresult, updateEvents, List.append_assoc]

/-- Whether a move is one of others, and not a turn of the loop. -/
def Move.isInput : Move → Bool
  | select _ | finish => false
  | _ => true

namespace Course

def endingBy (c : Course σ C) : Move → List Event
  | .select branch =>
    if (c.move (.select branch)).loop.isRunning = c.loop.isRunning then [] else [branch.ending]
  | _ => []

def endings (c : Course σ C) : List Move → List Event
  | [] => []
  | m :: moves => c.endingBy m ++ endings (c.move m) moves

theorem endingBy_eq_nil {c : Course σ C} {m : Move}
    (h : (c.move m).loop.isRunning = c.loop.isRunning) : c.endingBy m = [] := by
  cases m with
  | select branch => exact if_pos h
  | _ => rfl

theorem endingBy_eq {c : Course σ C} {branch : Branch} (hrunning : c.loop.isRunning = true)
    (hloop : (c.move (.select branch)).loop = c.loop.stop branch.ending) :
    c.endingBy (.select branch) = [branch.ending] := by
  simp [endingBy, hloop, hrunning, ReloadLoop.stop]

theorem endings_eq_nil {c : Course σ C} (hended : c.loop.isRunning = false)
    (hidle : c.loading? = none) (moves : List Move) : c.endings moves = [] := by
  induction moves generalizing c with
  | nil => rfl
  | cons m moves ih =>
    obtain ⟨hended', hidle', _⟩ := ended_move hended hidle m
    simp [endings, endingBy_eq_nil (hended'.trans hended.symm), ih hended' hidle']

theorem loaded_or_logged (c : Course σ C) (m : Move) :
    (∃ config, c.loadedBy m = [config] ∧ c.endingBy m = [] ∧
      (c.move m).loop = c.loop.load config) ∨
    (c.loadedBy m = [] ∧ (c.move m).loop.manager = c.loop.manager ∧
      (c.move m).loop.world.quiet = c.loop.world.quiet ∧
      (c.move m).loop.world.loopEvents = c.loop.world.loopEvents ++ c.endingBy m ∧
      ((c.move m).loop.isRunning = false ∧ (c.move m).loading? = none ∨ c.endingBy m = [])) := by
  cases c.effect_move m with
  | fed _ _ _ hloop _ _ hquiet hevents _ hloaded =>
    right
    have hending : c.endingBy m = [] := endingBy_eq_nil (by rw [hloop])
    refine ⟨hloaded, by rw [hloop], by rw [hloop]; exact hquiet, ?_, Or.inr hending⟩
    rw [hloop, hending, List.append_nil]
    exact hevents
  | taken _ _ _ _ _ hloop _ _ hloaded =>
    right
    have hending : c.endingBy m = [] := endingBy_eq_nil (by rw [hloop])
    refine ⟨hloaded, by rw [hloop], by rw [hloop], ?_, Or.inr hending⟩
    rw [hloop, hending, List.append_nil]
  | loaded config _ hloop _ _ hloaded =>
    left
    have hending : c.endingBy m = [] := endingBy_eq_nil (by rw [hloop]; rfl)
    exact ⟨config, hloaded, hending, hloop⟩
  | ended branch hmove _ _ hrunning hloop hloading _ hloaded =>
    right
    subst hmove
    have hending := endingBy_eq hrunning hloop
    refine ⟨hloaded, by rw [hloop]; rfl, by rw [hloop]; rfl, ?_,
      Or.inl ⟨by rw [hloop]; rfl, hloading⟩⟩
    rw [hloop, hending]
    cases branch <;> simp [ReloadLoop.stop, ReloadLoop.log, Branch.ending, Event.component]

/-- Whatever others do, the loop does to its manager what loads of its updates do, and logs what
came of each of them. -/
theorem follow_loads {c : Course σ C} (hidle : c.loop.isRunning = false → c.loading? = none)
    (moves : List Move) {w : World σ} (hw : c.loop.world.quiet = w.quiet) :
    let configs := c.loads moves
    let outcome := c.loop.manager.loads w (configs.map GatewayConfig.filters)
    (c.follow moves).loop.manager = outcome.2.1 ∧
      (c.follow moves).loop.world.quiet = outcome.2.2.quiet ∧
      (c.follow moves).loop.world.loopEvents = c.loop.world.loopEvents ++
        (configs.zipWith (updateEvents c.loop.manager.policy) outcome.1).flatten ++
          c.endings moves := by
  induction moves generalizing c w with
  | nil => simp [loads, endings, Manager.loads, hw]
  | cons m moves ih =>
    rcases c.loaded_or_logged m with ⟨config, hloaded, hending, hloop⟩ |
      ⟨hloaded, hmanager, hquiet, hevents, hlast⟩
    · obtain ⟨hnext, hworld, hlogged⟩ := c.loop.manager.update_eq config hw
      have hmanager : (c.move m).loop.manager = (c.loop.manager.load config.filters w).2.1 := by
        rw [hloop]
        exact hnext
      have hquiet : (c.move m).loop.world.quiet =
          (c.loop.manager.load config.filters w).2.2.quiet := by
        rw [hloop]
        exact hworld
      have hpolicy : (c.move m).loop.manager.policy = c.loop.manager.policy := by
        rw [hmanager]
        exact (c.loop.manager.load_frame config.filters w).2
      have hrest := ih (idle_move hidle m) hquiet
      rw [hpolicy, hmanager] at hrest
      have hfirst : (c.move m).loop.world.loopEvents = c.loop.world.loopEvents ++
          updateEvents c.loop.manager.policy config
            (c.loop.manager.load config.filters w).1 := by
        rw [hloop]
        exact hlogged
      simp only [loads, hloaded, endings, hending, List.singleton_append, List.map_cons,
        Manager.loads_cons, List.nil_append]
      refine ⟨hrest.1, hrest.2.1, ?_⟩
      rw [follow_cons, hrest.2.2, hfirst]
      simp
    · have hrest := ih (idle_move hidle m) (hquiet.trans hw)
      rw [hmanager] at hrest
      simp only [loads, hloaded, List.nil_append, endings]
      refine ⟨hrest.1, hrest.2.1, ?_⟩
      -- Nothing is loaded after the end, so the verdicts stand before it in the log.
      rw [follow_cons, hrest.2.2, hevents]
      rcases hlast with ⟨hended, hidle'⟩ | hnone
      · have hnoLoads : (c.move m).loads moves = [] := (ended_follow hended hidle' moves).2.2.2.2
        have hnoEndings := endings_eq_nil hended hidle' moves
        simp [hnoLoads, hnoEndings]
      · simp [hnone]

theorem policy_follow (c : Course σ C) (moves : List Move) :
    (c.follow moves).loop.manager.policy = c.loop.manager.policy := by
  induction moves generalizing c with
  | nil => rfl
  | cons m moves ih =>
    rw [follow_cons, ih]
    rcases c.loaded_or_logged m with ⟨config, _, _, hloop⟩ | ⟨_, hmanager, _⟩
    · rw [hloop]
      exact (c.loop.manager.load_frame config.filters _).2
    · rw [hmanager]

/-! ### The end of the channel -/

theorem isOpen_move {c : Course σ C} {m : Move} (hm : m ≠ .close) :
    (c.move m).loop.isOpen = c.loop.isOpen := by
  cases c.effect_move m with
  | fed isOpen _ _ hloop hopen =>
    rw [hloop]
    exact Bool.eq_iff_iff.mpr (hopen.trans (and_iff_left hm))
  | taken _ _ _ _ _ hloop => rw [hloop]
  | loaded _ _ hloop => rw [hloop]; rfl
  | ended _ _ _ _ _ hloop => rw [hloop]; rfl

theorem closed_follow {c : Course σ C} (hclosed : c.loop.isOpen = false) (moves : List Move) :
    (c.follow moves).loop.isOpen = false ∧ c.sent moves = [] := by
  induction moves generalizing c with
  | nil => exact ⟨hclosed, rfl⟩
  | cons m moves ih =>
    have hnext : (c.move m).loop.isOpen = false := by
      by_cases hm : m = .close
      · subst hm
        rfl
      · rw [isOpen_move hm]
        exact hclosed
    have hsent : c.sentBy m = [] := by
      cases m with
      | send config => simp [sentBy, ReloadLoop.send, hclosed]
      | _ => rfl
    obtain ⟨hlast, hnone⟩ := ih hnext
    exact ⟨hlast, by simp [sent, hsent, hnone]⟩

theorem closed_turns {c : Course σ C} (hclosed : c.loop.isOpen = false)
    (hidle : c.loop.isRunning = false → c.loading? = none) :
    let next := c.follow [.select .updates, .finish]
    next.loop.isRunning = false ∨ next.pending.length < c.pending.length := by
  cases hrunning : c.loop.isRunning with
  | false => exact Or.inl (ended_follow hrunning (hidle hrunning) _).1
  | true =>
    have hturns : (c.move (.select .updates)).loop.isRunning = false ∨
        c.loads [.select .updates, .finish] ≠ [] := by
      obtain ⟨s, _ | config⟩ := c
      · have hopen : s.loop.isOpen = false := hclosed
        have hrun : s.loop.isRunning = true := hrunning
        rcases hqueue : s.loop.queue with _ | ⟨config, queue⟩
        · left
          simp [move, loop, ReloadLoop.select, ReloadLoop.isReady, hqueue, hopen, hrun,
            ReloadLoop.stop]
        · right
          simp [loads, loadedBy, move, loop, ReloadLoop.select, ReloadLoop.isReady, hqueue, hrun]
      · right
        simp [loads, loadedBy, move]
    rcases hturns with hended | hloads
    · exact Or.inl (ended_follow hended (idle_move hidle _ hended) [.finish]).1
    · right
      have hsent := (closed_follow hclosed [.select .updates, .finish]).2
      have hflow := congrArg List.length (c.pending_follow [.select .updates, .finish])
      have hpos := List.length_pos_iff.mpr hloads
      simp only [hsent, List.append_nil, List.length_append] at hflow
      omega

/-- With the channel closed, the loop ends once it has had turns for all that waits. -/
theorem drain_ends {c : Course σ C} (hclosed : c.loop.isOpen = false)
    (hidle : c.loop.isRunning = false → c.loading? = none) {n : Nat}
    (hn : c.pending.length ≤ n) : (c.follow (drain (n + 1))).loop.isRunning = false := by
  have hdrain : ∀ k, drain (k + 1) = [.select .updates, .finish] ++ drain k := fun _ => rfl
  induction n generalizing c with
  | zero =>
    rcases closed_turns hclosed hidle with hended | hshorter
    · exact hended
    · omega
  | succ n ih =>
    rw [hdrain, follow_append]
    have hidle' := idle_follow hidle [.select .updates, .finish]
    rcases closed_turns hclosed hidle with hended | hshorter
    · exact (ended_follow hended (hidle' hended) _).1
    · exact ih (closed_follow hclosed _).1 hidle' (by omega)

/-! ### Runs without a shutdown -/

/-- A loop that has heard of no shutdown, and ends only once its channel is closed and nothing
waits. -/
structure Undisturbed (c : Course σ C) : Prop where
  unsignalled : c.loop.isSignalled = false
  drained : c.loop.isRunning = false → c.loop.isOpen = false ∧ c.pending = []

theorem Undisturbed.move {c : Course σ C} (h : c.Undisturbed) {m : Move} (htrigger : m ≠ .trigger)
    (hdrop : m ≠ .drop) :
    (c.move m).Undisturbed ∧
      ((c.move m).loop.isRunning = c.loop.isRunning ∨
        (c.move m).loop.isRunning = false ∧ c.endingBy m = [.updatesClosed]) := by
  cases c.effect_move m with
  | fed isOpen isSignalled _ hloop hopen hsignalled _ _ hloading _ hsent =>
    have hunsignalled : isSignalled = false := by
      cases hflag : isSignalled with
      | false => rfl
      | true =>
        rcases hsignalled hflag with hbefore | hnow | hnow
        · rw [h.unsignalled] at hbefore
          cases hbefore
        · exact absurd hnow htrigger
        · exact absurd hnow hdrop
    refine ⟨⟨by rw [hloop]; exact hunsignalled, ?_⟩, Or.inl (by rw [hloop])⟩
    intro hended
    rw [hloop] at hended
    obtain ⟨hclosed, hpending⟩ := h.drained hended
    have hstill : isOpen = false := by
      cases hflag : isOpen with
      | false => rfl
      | true => exact absurd (hopen.mp hflag).1 (by simp [hclosed])
    refine ⟨by rw [hloop]; exact hstill, ?_⟩
    simpa [pending, hloop, hloading, hsent hended] using hpending
  | taken _ _ _ hrunning _ hloop =>
    refine ⟨⟨by rw [hloop]; exact h.unsignalled, ?_⟩, Or.inl (by rw [hloop])⟩
    intro hended
    rw [hloop] at hended
    exact absurd (hrunning.symm.trans hended) Bool.noConfusion
  | loaded config hloading hloop =>
    refine ⟨⟨by rw [hloop]; exact h.unsignalled, ?_⟩, Or.inl (by rw [hloop]; rfl)⟩
    intro hended
    rw [hloop] at hended
    obtain ⟨_, hpending⟩ := h.drained hended
    simp [pending, hloading] at hpending
  | ended branch hmove hreason hidle hrunning hloop hloading =>
    subst hmove
    rcases hreason with ⟨rfl, hqueue, hclosed⟩ | ⟨rfl, hsignalled⟩
    · have hflags : (c.move (.select .updates)).loop.isOpen = false := by rw [hloop]; exact hclosed
      refine ⟨⟨by rw [hloop]; exact h.unsignalled, ?_⟩,
        Or.inr ⟨by rw [hloop]; rfl, endingBy_eq hrunning hloop⟩⟩
      intro _
      refine ⟨hflags, ?_⟩
      simp [pending, hloop, hloading, hqueue, ReloadLoop.stop, ReloadLoop.log]
    · rw [h.unsignalled] at hsignalled
      cases hsignalled

theorem Undisturbed.follow {c : Course σ C} (h : c.Undisturbed) {moves : List Move}
    (hmoves : ∀ m ∈ moves, m ≠ .trigger ∧ m ≠ .drop) : (c.follow moves).Undisturbed := by
  induction moves generalizing c with
  | nil => exact h
  | cons m moves ih =>
    obtain ⟨⟨htrigger, hdrop⟩, hrest⟩ := List.forall_mem_cons.mp hmoves
    exact ih (h.move htrigger hdrop).1 hrest

theorem Undisturbed.endings_eq {c : Course σ C} (h : c.Undisturbed) {moves : List Move}
    (hmoves : ∀ m ∈ moves, m ≠ .trigger ∧ m ≠ .drop) (hrunning : c.loop.isRunning = true) :
    c.endings moves = if (c.follow moves).loop.isRunning then [] else [.updatesClosed] := by
  induction moves generalizing c with
  | nil => simp [endings, hrunning]
  | cons m moves ih =>
    obtain ⟨⟨htrigger, hdrop⟩, hrest⟩ := List.forall_mem_cons.mp hmoves
    obtain ⟨hnext, hsame | ⟨hended, hending⟩⟩ := h.move htrigger hdrop
    · rw [endings, endingBy_eq_nil hsame, List.nil_append, follow_cons]
      exact ih hnext hrest (hsame.trans hrunning)
    · have hidle : (c.move m).loading? = none := by
        have hpending := (hnext.drained hended).2
        simp only [pending, List.append_eq_nil_iff, Option.toList_eq_nil_iff] at hpending
        exact hpending.1
      have hlast : ((c.move m).follow moves).loop.isRunning = false :=
        (ended_follow hended hidle moves).1
      simp [endings, hending, endings_eq_nil hended hidle, hlast]

theorem Undisturbed.sent_eq {c : Course σ C} (h : c.Undisturbed) (hopen : c.loop.isOpen = true)
    {moves : List Move} {configs : List GatewayConfig}
    (hmoves : moves.filter Move.isInput = configs.map Move.send ++ [.close]) :
    c.sent moves = configs ∧ (c.follow moves).loop.isOpen = false := by
  induction moves generalizing c configs with
  | nil => simp at hmoves
  | cons m moves ih =>
    cases hm : m.isInput with
    | false =>
      rw [List.filter_cons_of_neg (by simp [hm])] at hmoves
      have hclose : m ≠ .close := by
        rintro rfl
        cases hm
      have hnext := (h.move (m := m) (by rintro rfl; cases hm) (by rintro rfl; cases hm)).1
      have hsent : c.sentBy m = [] := by
        cases m with
        | send => cases hm
        | _ => rfl
      simpa [sent, hsent] using ih hnext ((isOpen_move hclose).trans hopen) hmoves
    | true =>
      rw [List.filter_cons_of_pos hm] at hmoves
      rcases configs with _ | ⟨config, rest⟩
      · obtain ⟨rfl, _⟩ := List.cons_eq_cons.mp hmoves
        obtain ⟨hlast, hnone⟩ := closed_follow (c := c.move .close) rfl moves
        exact ⟨by simp [sent, sentBy, hnone], hlast⟩
      · obtain ⟨rfl, htail⟩ := List.cons_eq_cons.mp hmoves
        have hrunning : c.loop.isRunning = true := by
          cases hflag : c.loop.isRunning with
          | true => rfl
          | false => exact absurd ((h.drained hflag).1.symm.trans hopen) Bool.noConfusion
        have hsent : c.sentBy (.send config) = [config] := by
          simp [sentBy, ReloadLoop.send, hrunning, hopen]
        have hnext := (h.move (m := .send config) Move.noConfusion Move.noConfusion).1
        have hlast := ih hnext ((isOpen_move Move.noConfusion).trans hopen) htail
        simpa [sent, hsent] using hlast

theorem undisturbed_start (coordinator : Shutdown) (m : Manager σ C) (w : World σ) :
    (start coordinator m w).Undisturbed where
  unsignalled := rfl
  drained := by
    intro hended
    cases hended

/-- A loop that gets some updates and then the end of its channel, and hears of no shutdown, ends
once it has had enough turns. It has then loaded each update once, in order and under the policy of
its manager, and logged one verdict on each. -/
theorem updates_applied (coordinator : Shutdown) (m : Manager σ C) (w : World σ)
    (configs : List GatewayConfig) (moves : List Move)
    (hmoves : moves.filter Move.isInput = configs.map Move.send ++ [.close]) :
    let first := start coordinator m w
    let last := first.follow moves
    let outcome := m.loads w (configs.map GatewayConfig.filters)
    (last.follow (drain (last.pending.length + 1))).loop.isRunning = false ∧
      (∀ earlier, earlier <+: moves → (first.follow earlier).loop.manager.policy = m.policy) ∧
      (last.loop.isRunning = false →
        first.loads moves = configs ∧
          last.loop.manager = outcome.2.1 ∧ last.loop.world.quiet = outcome.2.2.quiet ∧
          outcome.1.length = configs.length ∧
          last.loop.world.loopEvents = w.loopEvents ++ [.loopStarting m.policy] ++
            (configs.zipWith (updateEvents m.policy) outcome.1).flatten ++ [.updatesClosed]) := by
  intro first last outcome
  have hfirst : first.Undisturbed := undisturbed_start coordinator m w
  have hidle : first.loop.isRunning = false → first.loading? = none := fun _ => rfl
  obtain ⟨hsent, hclosed⟩ := hfirst.sent_eq rfl hmoves
  have hlisted : ∀ move ∈ moves, move.isInput = true →
      move ∈ configs.map Move.send ++ [.close] := by
    intro move hmove hinput
    rw [← hmoves]
    exact List.mem_filter.mpr ⟨hmove, hinput⟩
  have hcalm : ∀ move ∈ moves, move ≠ .trigger ∧ move ≠ .drop := by
    intro move hmove
    constructor
    · rintro rfl
      simpa using hlisted _ hmove rfl
    · rintro rfl
      simpa using hlisted _ hmove rfl
  refine ⟨drain_ends hclosed (idle_follow hidle moves) Nat.le.refl, ?_, ?_⟩
  · intro earlier _
    exact first.policy_follow earlier
  · intro hended
    have hpending : last.pending = [] := ((hfirst.follow hcalm).drained hended).2
    have hloads : first.loads moves = configs := by
      have hflow := first.pending_follow moves
      rw [hsent, show (first.follow moves).pending = [] from hpending, List.append_nil] at hflow
      exact hflow.symm
    obtain ⟨hmanager, hquiet, hevents⟩ := follow_loads hidle moves (w := w) rfl
    rw [hloads] at hmanager hquiet hevents
    refine ⟨hloads, hmanager, hquiet, ?_, ?_⟩
    · exact (m.length_loads w _).trans (List.length_map _)
    · have hstarted : first.loop.world.loopEvents = w.loopEvents ++ [.loopStarting m.policy] := by
        simp [first, start, loop, ReloadLoop.start, Event.component]
      have hendings : first.endings moves = [.updatesClosed] := by
        rw [hfirst.endings_eq hcalm rfl,
          show (first.follow moves).loop.isRunning = false from hended]
        rfl
      rw [hstarted, hendings] at hevents
      exact hevents

theorem updates_applied_of_failing_loads :
    let registry := Catalogue.registryOf [("limit", "limit"), ("panics", "panics")]
    let configs : List GatewayConfig := [{ filters := [⟨"limit", []⟩] },
      { filters := [⟨"panics", []⟩], reload := { policy := .skip } },
      { filters := [⟨"absent", []⟩] }]
    let moves := (configs.take 1).map Move.send ++ [.select .updates] ++
      (configs.drop 1).map Move.send ++ [.finish, .select .shutdown, .close] ++ drain 3
    let last := (start {} { registry } ⟨[], 0, [], .zero⟩).follow moves
    last.loop.isRunning = false ∧ last.loop.manager.generation = 1 ∧
      last.loop.world.loopEvents =
        [.loopStarting .reject, .updateApplied 1 1 0, .policyFixed .reject .skip, .loadPanicked,
          .updateNotApplied ⟨1, [⟨0, .pluginNotFound "absent"⟩]⟩, .updatesClosed] := by
  intro registry configs moves last
  have hended : last.loop.isRunning = false := by decide +kernel
  obtain ⟨_, _, hresult⟩ := updates_applied {} { registry } ⟨[], 0, [], .zero⟩ configs moves rfl
  obtain ⟨_, hmanager, _, _, hevents⟩ := hresult hended
  refine ⟨hended, ?_, ?_⟩
  · rw [hmanager]
    decide +kernel
  · rw [hevents]
    rfl

end Course

end FilterGateway
