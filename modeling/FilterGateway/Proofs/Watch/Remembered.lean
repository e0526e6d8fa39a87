import FilterGateway.Proofs.Manager.History
import FilterGateway.Proofs.Watch.Startup

/-!
# The text that a watcher remembers

A watching gateway makes one load for each text that it starts from or that its watcher sends, in
that order. The watcher remembers the last of these texts whatever comes of its load, so a file that
is saved again is passed over also after a load that was rejected or has panicked. The chain in
force is the one of the last load that published.
-/

namespace FilterGateway

variable {σ C : Type}

/-- A load of a gateway, with the session that it finds. -/
structure Loading (σ C : Type) where
  config : GatewayConfig
  found : Session σ C

namespace Loading

def moment (l : Loading σ C) : Moment σ C :=
  l.found.moment (.load l.config.filters)

def published? (l : Loading σ C) : Option (Chain C) :=
  l.moment.published?

/-- The chain in force after a load. -/
def chain (l : Loading σ C) : Chain C :=
  l.moment.after.manager.active

theorem chain_cases (l : Loading σ C) :
    (l.published? = none ∧ l.chain = l.found.manager.active) ∨ l.published? = some l.chain := by
  rcases l.found.moment_cases (.load l.config.filters) with
    ⟨hnone, hkept⟩ | ⟨b, _, hreport, _⟩
  · exact Or.inl ⟨by simp [published?, moment, Moment.published?, hnone], hkept⟩
  · exact Or.inr (by simp [published?, chain, moment, Moment.published?, hreport])

theorem generation_pos {l : Loading σ C} {chain : Chain C} (h : l.published? = some chain) :
    0 < chain.generation := by
  obtain ⟨report, hreport, rfl⟩ := Option.map_eq_some_iff.mp h
  rcases l.found.moment_cases (.load l.config.filters) with ⟨hnone, _⟩ | ⟨b, _, _, hactive⟩
  · exact absurd (hnone.symm.trans hreport) (Option.some_ne_none _).symm
  · have hnext : (l.found.perform (.load l.config.filters)).2.manager.active.generation =
        l.found.manager.active.generation + 1 := by rw [hactive]
    exact hnext ▸ Nat.succ_pos _

end Loading

/-- The load that a gateway starts with, if its file has a configuration. -/
def Runtime.firstLoading? (path : String) (file : FileState) (registry : Registry σ C)
    (w : World σ) : Option (Loading σ C) :=
  (loadConfig file).toOption.map fun config =>
    { config
      found :=
        { manager := { registry, policy := config.reload.policy }
          world := w.log
            (.configLoaded path config.filters.length config.reload.policy config.reload.watch) } }

namespace Running

/-- The load that a turn brings to its end. -/
def loadingBy? (g : Running σ C) : Turn → Option (Loading σ C)
  | .finish => g.loading?.map fun config =>
    let loop := g.runtime.service.loop
    ⟨config, ⟨loop.manager, loop.manager.notePolicy config.reload.policy loop.world⟩⟩
  | .observe _ | .select _ => none

def loadings (g : Running σ C) : List Turn → List (Loading σ C)
  | [] => []
  | t :: turns => (g.loadingBy? t).toList ++ loadings (g.turn t) turns

/-- The text that a gateway starts from and those that its watcher sends. -/
def sentTexts (path : String) (file : FileState) (turns : List Turn) : List String :=
  file.text.toOption.toList ++ dueTexts file.text.toOption
    ((turns.flatMap Turn.observations).filterMap (Observation.configText? path))

@[simp] theorem follow_nil (g : Running σ C) : g.follow [] = g := rfl

@[simp] theorem follow_concat (g : Running σ C) (turns : List Turn) (t : Turn) :
    g.follow (turns ++ [t]) = (g.follow turns).turn t :=
  g.follow_append turns [t]

theorem loadings_concat (g : Running σ C) (turns : List Turn) (t : Turn) :
    g.loadings (turns ++ [t]) = g.loadings turns ++ ((g.follow turns).loadingBy? t).toList := by
  induction turns generalizing g with
  | nil => simp [loadings]
  | cons first turns ih =>
    have hrest := ih (g.turn first)
    simpa [loadings, follow] using hrest

namespace Watched

variable {g : Running σ C} {w : Watcher}

theorem pending_turn (h : g.Watched w) (t : Turn) :
    g.pending ++ w.emissions t.observations =
      (g.loadingBy? t).toList.map Loading.config ++ (g.turn t).pending := by
  cases t with
  | observe o =>
    obtain ⟨world, hnotice⟩ := Runtime.notice_eq h.watcher h.running h.opened o
    have hturn : g.turn (.observe o) = { g with runtime := g.runtime.notice o.change o.file } := rfl
    rw [hturn, hnotice]
    simp [pending, loadingBy?, Turn.observations, Watcher.emissions]
  | select branch =>
    rw [h.pending_select]
    simp [loadingBy?, Turn.observations, Watcher.emissions]
  | finish =>
    obtain ⟨r, _ | config⟩ := g <;>
      simp [pending, loadingBy?, Running.turn, Turn.observations, Watcher.emissions,
        Runtime.withLoop, ReloadLoop.load]

theorem pending_follow (h : g.Watched w) (turns : List Turn) :
    g.pending ++ w.emissions (turns.flatMap Turn.observations) =
      (g.loadings turns).map Loading.config ++ (g.follow turns).pending := by
  induction turns using List.reverseRecOn with
  | nil => simp [loadings, Watcher.emissions]
  | append_singleton turns t ih =>
    have hturn := (h.follow turns).pending_turn t
    rw [List.flatMap_append, Watcher.emissions_append, ← List.append_assoc, ih, loadings_concat,
      follow_concat, List.map_append, List.append_assoc, List.append_assoc, ← hturn]
    simp

theorem active_turn (h : g.Watched w) (t : Turn) :
    (g.loadingBy? t = none ∧ (g.turn t).runtime.manager.active = g.runtime.manager.active) ∨
    ∃ l, g.loadingBy? t = some l ∧ l.found.manager.active = g.runtime.manager.active ∧
      (g.turn t).runtime.manager.active = l.chain := by
  cases t with
  | observe o =>
    left
    obtain ⟨world, hnotice⟩ := Runtime.notice_eq h.watcher h.running h.opened o
    have hturn : g.turn (.observe o) = { g with runtime := g.runtime.notice o.change o.file } := rfl
    rw [hturn, hnotice]
    exact ⟨rfl, rfl⟩
  | select branch =>
    left
    refine ⟨rfl, ?_⟩
    cases branch with
    | shutdown => rw [h.select_shutdown]
    | updates =>
      rcases hloading : g.loading? with _ | config
      · rw [h.select_updates hloading]
        rfl
      · simp [Running.turn, hloading]
  | finish =>
    obtain ⟨r, _ | config⟩ := g
    · exact Or.inl ⟨rfl, rfl⟩
    · exact Or.inr ⟨_, rfl, rfl, rfl⟩

/-- The chain in force is the one that the last load has left, and the last one that was
published. -/
theorem active_follow (h : g.Watched w) (turns : List Turn) :
    (g.follow turns).runtime.manager.active =
        ((g.loadings turns).getLast?.map Loading.chain).getD g.runtime.manager.active ∧
      (g.follow turns).runtime.manager.active =
        ((g.loadings turns).filterMap Loading.published?).getLast?.getD
          g.runtime.manager.active := by
  induction turns using List.reverseRecOn with
  | nil => exact ⟨rfl, rfl⟩
  | append_singleton turns t ih =>
    rcases (h.follow turns).active_turn t with ⟨hnone, hkept⟩ | ⟨l, hl, hfound, hchain⟩
    · simpa [loadings_concat, hnone, hkept] using ih
    · rcases l.chain_cases with ⟨hpublished, hkept⟩ | hpublished
      · simpa [loadings_concat, hl, hchain, List.filterMap_append, hpublished, hkept, hfound]
          using ih.2
      · simp [loadings_concat, hl, hchain, List.filterMap_append, hpublished]

theorem turn_of_remembered (h : g.Watched w) {o : Observation} {text : String}
    (hreading : o.reading? w.path = some (.ok text)) (hremembered : w.baseline? = some text) :
    g.turn (.observe o) = g := by
  have hconcerns : o.change.concerns w.path = true := by
    by_contra hnot
    simp [Observation.reading?, hnot] at hreading
  have htext : o.file.text = .ok text := by
    simpa [Observation.reading?, hconcerns] using hreading
  have hnotice : w.notice o.change o.file = ({}, w) := by
    simp [Watcher.notice, hconcerns, htext, Watcher.inspect, hremembered]
  have hruntime : g.runtime.notice o.change o.file = g.runtime := by
    simp only [Runtime.notice, h.watcher, hnotice, List.foldl_nil]
    rw [← h.watcher]
  simp only [Running.turn, hruntime]

end Watched

end Running

theorem Runtime.watched_of_start {registry : Registry σ C} {path : String} {file : FileState}
    {w : World σ} {r : Runtime σ C} (hstart : (start path file registry w).1 = some (.ok r))
    (hwatch : r.isWatching = true) :
    ∃ text l, file.text = .ok text ∧ firstLoading? path file registry w = some l ∧
      parseConfig text = .ok l.config ∧ l.found.manager.active = {} ∧ r.manager.active = l.chain ∧
      Running.pending { runtime := r } = [] ∧
      Running.Watched { runtime := r } ⟨path, some text⟩ := by
  rcases htext : file.text with e | text
  · simp [start, htext] at hstart
  rcases hparse : parseConfig text with e | config
  · simp [start, htext, hparse] at hstart
  have hconfig : loadConfig file = .ok config := by simp [loadConfig, htext, hparse]
  rcases start_cases path registry w htext hparse with ⟨_, hnone⟩ | ⟨_, w₂, hstarted⟩
  · exact absurd (hnone.symm.trans hstart) (Option.some_ne_none _).symm
  · obtain rfl := Except.ok.inj (Option.some.inj (hstarted.symm.trans hstart))
    have hon : config.reload.watch = true := by simpa using hwatch
    refine ⟨text, _, rfl, by simp [firstLoading?, hconfig, Except.toOption]; rfl, hparse, rfl, ?_⟩
    rw [hon]
    exact ⟨rfl, rfl, rfl, rfl, rfl, rfl⟩

namespace Running

/-- A gateway has loaded the texts that it started from and was sent, in that order, and the chain
in force is the last one that was published. A text that the watcher remembers is passed over
without any effect once nothing waits. It is the text of the last load: the chain in force is what
this load published or, when it was rejected or has panicked, what the load found. -/
theorem remembered_of_last_load {registry : Registry σ C} {path : String} {file : FileState}
    {w : World σ} {r : Runtime σ C}
    (hstart : (Runtime.start path file registry w).1 = some (.ok r)) (hwatch : r.isWatching = true)
    (turns : List Turn) (hdrained : (follow { runtime := r } turns).pending = []) :
    let g := follow { runtime := r } turns
    let texts := sentTexts path file turns
    let loads := (Runtime.firstLoading? path file registry w).toList ++
      loadings { runtime := r } turns
    texts.map parseConfig = loads.map (fun l => .ok l.config) ∧
    g.runtime.manager.active = (loads.filterMap Loading.published?).getLast?.getD {} ∧
    ∀ (o : Observation) (text : String), o.reading? path = some (.ok text) →
      g.runtime.watcher?.bind Watcher.baseline? = some text →
      g.turn (.observe o) = g ∧ texts.getLast? = some text ∧
      ∃ l, loads.getLast? = some l ∧
        (∀ chain, l.published? = some chain → g.runtime.manager.active = chain) ∧
        (l.published? = none → g.runtime.manager.active = l.found.manager.active) := by
  intro g texts loads
  obtain ⟨first, l, hfirst, hloading, hparse, hempty, hchain, hidle, hwatched⟩ :=
    Runtime.watched_of_start hstart hwatch
  let os := turns.flatMap Turn.observations
  let w₀ : Watcher := ⟨path, some first⟩
  let later := loadings { runtime := r } turns
  obtain ⟨hsent, hpath, hbaseline⟩ := w₀.emissions_eq os
  obtain ⟨hlast, hpublished⟩ := hwatched.active_follow turns
  have hend : g.Watched (w₀.after os) := hwatched.follow turns
  have hloads : loads = l :: later := by simp [loads, later, hloading]
  have htexts : texts =
      first :: dueTexts (some first) (os.filterMap (Observation.configText? path)) := by
    simp [texts, sentTexts, hfirst, Except.toOption, os]
  have hflow : w₀.emissions os = later.map Loading.config := by
    have hpending := hwatched.pending_follow turns
    rw [hidle, hdrained, List.nil_append, List.append_nil] at hpending
    exact hpending
  have hactive : g.runtime.manager.active = (loads.getLast?.map Loading.chain).getD {} := by
    rw [hlast, hloads, List.getLast?_cons]
    cases later.getLast? <;> simp [hchain]
  refine ⟨?_, ?_, ?_⟩
  · rw [htexts, hloads, List.map_cons, List.map_cons, hparse]
    congr 1
    rw [← hsent, hflow, List.map_map]
    rfl
  · rw [hpublished, hloads]
    rcases l.chain_cases with ⟨hnone, hkept⟩ | hsome
    · simp [hnone, hchain, hkept, hempty, later]
    · rw [List.filterMap_cons_some hsome, List.getLast?_cons, hchain]
      rfl
  · intro o text hreading hremembered
    have hbase : (w₀.after os).baseline? = some text := by
      rw [hend.watcher] at hremembered
      exact hremembered
    have hreading' : o.reading? (w₀.after os).path = some (.ok text) := by
      rw [hpath]
      exact hreading
    refine ⟨hend.turn_of_remembered hreading' hbase, ?_, ?_⟩
    · rw [htexts, List.getLast?_cons, ← hbase, hbaseline]
      cases (dueTexts (some first) (os.filterMap (Observation.configText? path))).getLast? <;> rfl
    · obtain ⟨last, hlastLoad⟩ : ∃ last, loads.getLast? = some last :=
        ⟨_, by rw [hloads, List.getLast?_cons]⟩
      rw [hlastLoad] at hactive
      have hleft : g.runtime.manager.active = last.chain := hactive
      refine ⟨last, hlastLoad, ?_, ?_⟩
      · intro chain hpublish
        rcases last.chain_cases with ⟨hnone, _⟩ | hsome
        · exact absurd (hnone.symm.trans hpublish) (Option.some_ne_none chain).symm
        · exact hleft.trans (Option.some.inj (hsome.symm.trans hpublish))
      · intro hnone
        rcases last.chain_cases with ⟨_, hkept⟩ | hsome
        · exact hleft.trans hkept
        · exact absurd (hnone.symm.trans hsome) (Option.some_ne_none _).symm

def flakyText : String :=
  "[[filters]]\nname = \"f\"\n"

def flakyEditedText : String :=
  "[[filters]]\nname = \"f\"\n[filters.options]\npriority = 1\n"

theorem remembered_of_last_load_of_flaky :
    let registry := Catalogue.registryOf [("f", "flaky")]
    let world : World Calls := ⟨[], 0, [], .zero⟩
    let file := FileState.bytes flakyText.toByteArray
    let saved := edit "filters.toml" flakyEditedText
    let turns := saved :: drain 1
    ∃ r, (Runtime.start "filters.toml" file registry world).1 = some (.ok r) ∧
      let g := follow { runtime := r } turns
      g.turn saved = g ∧
      (sentTexts "filters.toml" file turns).getLast? = some flakyEditedText := by
  intro registry world file saved turns
  have hchecked : (parseConfig flakyText).toOption.any (fun config =>
      config.reload.watch && (registry.build config.filters world).1.isSome) = true := by
    decide +kernel
  rcases hparse : parseConfig flakyText with e | config <;> rw [hparse] at hchecked
  · cases hchecked
  obtain ⟨hwatch, hbuilds⟩ := Bool.and_eq_true_iff.mp hchecked
  obtain ⟨b, hb⟩ := Option.isSome_iff_exists.mp hbuilds
  have hconfig : loadConfig file = .ok config := loadConfig_toByteArray hparse
  obtain ⟨r, hstart, _, _, hwatching, _⟩ :=
    (Runtime.start_of_config "filters.toml" registry world hconfig).2 b hb
  have hwatches : r.isWatching = true := hwatching.trans hwatch
  obtain ⟨first, _, hfirst, _, _, _, _, hidle, hwatched⟩ :=
    Runtime.watched_of_start hstart hwatches
  obtain rfl : flakyText = first := by
    rw [FileState.text_toByteArray] at hfirst
    exact Except.ok.inj hfirst
  have hdrained : (follow { runtime := r } turns).pending = [] := by
    have hwaits := hwatched.length_pending_turn saved
    rw [hidle] at hwaits
    refine (hwatched.turn saved).pending_drain_one.trans (List.eq_nil_of_length_eq_zero ?_)
    rw [List.length_tail]
    exact Nat.sub_eq_zero_of_le hwaits
  have hremembered :
      (follow { runtime := r } turns).runtime.watcher?.bind Watcher.baseline? =
        some flakyEditedText := by
    rw [(hwatched.follow turns).watcher]
    refine Watcher.baseline?_after rfl ?_ (by decide +kernel)
    simp [turns, saved, edit, Turn.observations, Observation.reading?, Change.concerns]
  obtain ⟨_, _, hpassed⟩ := remembered_of_last_load hstart hwatches turns hdrained
  obtain ⟨hsame, hlast, _⟩ :=
    hpassed ⟨⟨.modify, ["filters.toml"]⟩, .bytes flakyEditedText.toByteArray⟩ flakyEditedText
      (by simp [Observation.reading?, Change.concerns]) hremembered
  exact ⟨r, hstart, hsame, hlast⟩

def offlineText : String :=
  "[[filters]]\nname = \"offline\"\n"

theorem remembered_not_in_force :
    ¬ ∀ (path : String) (file : FileState) (registry : Registry Calls Setup) (w : World Calls)
      (r : Runtime Calls Setup), (Runtime.start path file registry w).1 = some (.ok r) →
      r.isWatching = true → ∀ turns : List Turn, (follow { runtime := r } turns).pending = [] →
      ∀ (o : Observation) (text : String), o.reading? path = some (.ok text) →
      (follow { runtime := r } turns).runtime.watcher?.bind Watcher.baseline? = some text →
      ∃ l, (text, l) ∈ (sentTexts path file turns).zip
          ((Runtime.firstLoading? path file registry w).toList ++
            loadings { runtime := r } turns) ∧
        l.published? = some (follow { runtime := r } turns).runtime.manager.active := by
  intro hclaim
  let registry := Catalogue.registryOf [("offline", "offline")]
  let world : World Calls := ⟨[], 0, [], .zero⟩
  let file := FileState.bytes offlineText.toByteArray
  have hchecked : (parseConfig offlineText).toOption.any (fun config =>
      config.reload == ⟨.reject, true, 2⟩ &&
        (registry.build config.filters world).1.any fun b => !b.failures.isEmpty) = true := by
    decide +kernel
  rcases hparse : parseConfig offlineText with e | config <;> rw [hparse] at hchecked
  · cases hchecked
  obtain ⟨hreload, b, hb, hfailures⟩ : config.reload = ⟨.reject, true, 2⟩ ∧
      ∃ b, (registry.build config.filters world).1 = some b ∧ b.failures ≠ [] := by
    simpa [Except.toOption, Option.any_eq_true] using hchecked
  have hconfig : loadConfig file = .ok config := loadConfig_toByteArray hparse
  obtain ⟨r, hstart, _, _, hwatch, hactive⟩ :=
    (Runtime.start_of_config "filters.toml" registry world hconfig).2 b hb
  rw [hreload] at hwatch hactive
  rw [if_neg (by simp [hfailures])] at hactive
  obtain ⟨first, _, hfirst, _, _, _, _, hidle, hwatched⟩ :=
    Runtime.watched_of_start hstart hwatch
  obtain ⟨l, _, hpublished⟩ := hclaim "filters.toml" file registry world r hstart hwatch [] hidle
    ⟨⟨.modify, ["filters.toml"]⟩, file⟩ first
    (by simp [Observation.reading?, Change.concerns, hfirst])
    (by rw [follow_nil, hwatched.watcher]; rfl)
  have hpos := Loading.generation_pos hpublished
  rw [follow_nil, hactive] at hpos
  exact Nat.lt_irrefl 0 hpos

end Running

end FilterGateway
