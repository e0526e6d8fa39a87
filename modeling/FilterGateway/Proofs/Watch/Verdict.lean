import FilterGateway.Live.Monitor
import FilterGateway.Proofs.Watch.Emission

/-!
# The last verdict of a monitor

A monitor reports an invalid text as soon as it is read, and a valid one when it comes to it in its
queue. So the last verdict can be out of date: an invalid text may overtake a valid one, and a valid
text that comes back after invalid ones is passed over by the watcher, which remembers it. The
watcher also passes over the text that it starts from, although the first verdict is on an earlier
reading of the file, and there may have been an edit between the two.
-/

namespace FilterGateway

/-- What an event says about the file that is monitored. -/
def Event.verdict? : Event → Option Bool
  | initialValid _ | configValid _ _ => some true
  | initialInvalid _ | reloadFailed _ => some false
  | _ => none

def isFaultyText (text : String) : Bool :=
  !Text.isBlank text && !(parseConfig text).isOk

/-- A monitor with what it has logged and the versions that it has not come to yet. -/
structure Monitoring where
  monitor : Monitor
  waiting : List GatewayConfig := []
  events : List Event := []

namespace Monitoring

/-- The watcher hears of a change, or the monitor reports the first version in its queue. -/
inductive Turn where
  | observe (o : Observation)
  | report

def Turn.reading? (path : String) : Turn → Option (Except ReadError String)
  | observe o => o.reading? path
  | report => none

def start (path : String) (loaded file : FileState) : Monitoring where
  monitor := (Monitor.start path loaded file).2
  events := (Monitor.start path loaded file).1

def watcher (s : Monitoring) : Watcher :=
  s.monitor.watcher

/-- The last verdict among the events, whatever the file's own log level lets through. -/
def lastVerdict? (s : Monitoring) : Option Bool :=
  (s.events.filterMap Event.verdict?).getLast?

def take (s : Monitoring) : Turn → Monitoring
  | .observe o =>
    let (sighting, watcher) := s.watcher.notice o.change o.file
    { monitor := ⟨watcher⟩
      waiting := s.waiting ++ sighting.emitted?.toList
      events := s.events ++ sighting.events }
  | .report =>
    match s.waiting with
    | [] => s
    | config :: waiting => { s with waiting, events := s.events ++ [laterVerdict config] }

def follow (s : Monitoring) (turns : List Turn) : Monitoring :=
  turns.foldl take s

@[simp] theorem follow_nil (s : Monitoring) : s.follow [] = s := rfl

@[simp] theorem follow_cons (s : Monitoring) (t : Turn) (turns : List Turn) :
    s.follow (t :: turns) = (s.take t).follow turns := rfl

theorem follow_append (s : Monitoring) (turns turns' : List Turn) :
    s.follow (turns ++ turns') = (s.follow turns).follow turns' :=
  List.foldl_append ..

@[simp] theorem follow_concat (s : Monitoring) (turns : List Turn) (t : Turn) :
    s.follow (turns ++ [t]) = (s.follow turns).take t :=
  s.follow_append turns [t]

/-- A monitor that comes to its queue after each change logs what a reaction logs. -/
theorem follow_react {s : Monitoring} (hwaiting : s.waiting = []) (o : Observation) :
    s.follow [.observe o, .report] =
      { monitor := (s.monitor.react o.change o.file).2
        events := s.events ++ (s.monitor.react o.change o.file).1 } := by
  rcases hemitted : (s.watcher.notice o.change o.file).1.emitted? with _ | config <;>
    simp [take, Monitor.react, hwaiting, watcher] at hemitted ⊢ <;> simp [hemitted]

/-! ### Turns -/

/-- What a turn comes to. A text that is blank or remembered changes nothing; another one is
reported at once if it is faulty, and waits for its verdict if it is valid. -/
inductive Effect (s : Monitoring) (t : Turn) (next : Monitoring) : Prop where
  | unchanged (hreading : ∀ text, t.reading? s.watcher.path = some (.ok text) →
        Text.isBlank text = true ∨ s.watcher.baseline? = some text)
      (hwatcher : next.watcher = s.watcher) (hwaiting : next.waiting = s.waiting)
      (hverdict : next.lastVerdict? = s.lastVerdict?)
  | faulty (text : String) (hreading : t.reading? s.watcher.path = some (.ok text))
      (hfaulty : isFaultyText text = true) (hnew : s.watcher.baseline? ≠ some text)
      (hwatcher : next.watcher = s.watcher) (hwaiting : next.waiting = s.waiting)
      (hverdict : next.lastVerdict? = some false)
  | fresh (text : String) (config : GatewayConfig)
      (hreading : t.reading? s.watcher.path = some (.ok text))
      (hvalid : isConfigText text = true) (hnew : s.watcher.baseline? ≠ some text)
      (hwatcher : next.watcher = { s.watcher with baseline? := some text })
      (hwaiting : next.waiting = s.waiting ++ [config])
      (hverdict : next.lastVerdict? = s.lastVerdict?)
  | told (config : GatewayConfig) (hreading : t.reading? s.watcher.path = none)
      (hwatcher : next.watcher = s.watcher) (hwaiting : s.waiting = config :: next.waiting)
      (hverdict : next.lastVerdict? = some true)

theorem take_observe {s : Monitoring} {o : Observation} {sighting : Sighting} {next : Watcher}
    (hnotice : s.watcher.notice o.change o.file = (sighting, next)) :
    s.take (.observe o) =
      { monitor := ⟨next⟩
        waiting := s.waiting ++ sighting.emitted?.toList
        events := s.events ++ sighting.events } := by
  simp [take, hnotice]

theorem effect_of_silent {s : Monitoring} {o : Observation} (events : List Event)
    (hnotice : s.watcher.notice o.change o.file = ({ events }, s.watcher))
    (hevents : events.filterMap Event.verdict? = [])
    (hreading : ∀ text, o.reading? s.watcher.path = some (.ok text) →
      Text.isBlank text = true ∨ s.watcher.baseline? = some text) :
    Effect s (.observe o) (s.take (.observe o)) := by
  rw [take_observe hnotice]
  exact .unchanged hreading rfl (by simp) (by simp [lastVerdict?, hevents])

theorem effect_of_text {s : Monitoring} {o : Observation} {text : String}
    (hreading : o.reading? s.watcher.path = some (.ok text))
    (hinspect : s.watcher.notice o.change o.file = s.watcher.inspect text) :
    Effect s (.observe o) (s.take (.observe o)) := by
  have hfound : ∀ found, o.reading? s.watcher.path = some (.ok found) → found = text := by
    intro found hfound
    rw [hreading] at hfound
    cases hfound
    rfl
  by_cases hsame : s.watcher.baseline? = some text
  · refine effect_of_silent [] (by simp [hinspect, Watcher.inspect, hsame]) rfl ?_
    intro found h
    rw [hfound found h]
    exact Or.inr hsame
  by_cases hblank : Text.isBlank text = true
  · refine effect_of_silent [.fileEmpty s.watcher.path]
      (by simp [hinspect, Watcher.inspect, hsame, hblank]) rfl ?_
    intro found h
    rw [hfound found h]
    exact Or.inl hblank
  rcases hparse : parseConfig text with e | config
  · have hfaulty : isFaultyText text = true := by
      simp [isFaultyText, hblank, hparse, Except.isOk, Except.toBool]
    rw [take_observe (hinspect.trans (by simp only [Watcher.inspect, hsame, hblank, hparse]; rfl))]
    exact .faulty text hreading hfaulty hsame rfl (by simp)
      (by simp [lastVerdict?, Event.verdict?, List.findSome?])
  · have hvalid := (isConfigText_iff text).mpr ⟨by simpa using hblank, config, hparse⟩
    rw [take_observe (hinspect.trans (by simp only [Watcher.inspect, hsame, hblank, hparse]; rfl))]
    exact .fresh text config hreading hvalid hsame rfl (by simp)
      (by simp [lastVerdict?, Event.verdict?])

theorem effect_observe (s : Monitoring) (o : Observation) :
    Effect s (.observe o) (s.take (.observe o)) := by
  by_cases hconcerns : o.change.concerns s.watcher.path = true
  · have hreading : o.reading? s.watcher.path = some o.file.text := if_pos hconcerns
    cases hread : o.file.text with
    | error e =>
      refine effect_of_silent [.fileUnreadable s.watcher.path e]
        (by simp [Watcher.notice, hconcerns, hread]) rfl ?_
      intro text htext
      rw [hreading, hread] at htext
      cases htext
    | ok text =>
      exact effect_of_text (hread ▸ hreading) (by simp [Watcher.notice, hconcerns, hread])
  · refine effect_of_silent [] (by simp [Watcher.notice, hconcerns]) rfl ?_
    intro text htext
    rw [Observation.reading?, if_neg hconcerns] at htext
    cases htext

theorem effect_take (s : Monitoring) (t : Turn) : Effect s t (s.take t) := by
  cases t with
  | observe o => exact s.effect_observe o
  | report =>
    rcases hwaiting : s.waiting with _ | ⟨config, waiting⟩
    · have htake : s.take .report = s := by simp [take, hwaiting]
      rw [htake]
      refine .unchanged ?_ rfl rfl rfl
      intro text hreading
      cases hreading
    · have htake : s.take .report =
          { s with waiting, events := s.events ++ [laterVerdict config] } := by
        simp [take, hwaiting]
      rw [htake]
      exact .told config rfl rfl hwaiting (by simp [lastVerdict?, laterVerdict, Event.verdict?])

theorem path_follow (path : String) (loaded file : FileState) (turns : List Turn) :
    ((start path loaded file).follow turns).watcher.path = path := by
  induction turns using List.reverseRecOn with
  | nil => rfl
  | append_singleton turns t ih =>
    rw [follow_concat]
    cases ((start path loaded file).follow turns).effect_take t with
    | unchanged _ hwatcher => rw [hwatcher, ih]
    | faulty _ _ _ _ hwatcher => rw [hwatcher, ih]
    | fresh _ _ _ _ _ hwatcher => rw [hwatcher, ih]
    | told _ _ hwatcher => rw [hwatcher, ih]

/-! ### What was read -/

def readings (path : String) (turns : List Turn) : List (Except ReadError String) :=
  turns.filterMap (Turn.reading? path)

/-- The contents of the file as the watcher finds it, from its start on. -/
def contents (path : String) (file : FileState) (turns : List Turn) :
    List (Except ReadError String) :=
  file.text :: readings path turns

def validTexts (path : String) (file : FileState) (turns : List Turn) : List String :=
  (contents path file turns).filterMap validText?

def FindsFault (path : String) (o : Observation) : Prop :=
  ∃ text, o.reading? path = some (.ok text) ∧ isFaultyText text = true

/-- A faulty text was found last, while the monitor had not come to a valid version before it. -/
def Overtaken (path : String) (loaded file : FileState) (turns : List Turn) : Prop :=
  ∃ before o later, turns = before ++ .observe o :: later ∧ FindsFault path o ∧
    readings path later = [] ∧ ((start path loaded file).follow before).waiting ≠ []

/-- A valid text was replaced by a faulty one, while no version waited for its verdict, and found
again last, without another valid text between. -/
def TakenBack (path : String) (loaded file : FileState) (turns : List Turn) : Prop :=
  ∃ before o later text, turns = before ++ .observe o :: later ∧ FindsFault path o ∧
    ((start path loaded file).follow before).waiting = [] ∧
    (validTexts path file before).getLast? = some text ∧
    (∀ found, .ok found ∈ readings path later → isConfigText found = true → found = text) ∧
    (readings path later).getLast? = some (.ok text)

/-- Nothing but a text, and blank ones, was found. -/
def OnlyFinds (path text : String) (turns : List Turn) : Prop :=
  ∀ found, .ok found ∈ readings path turns → Text.isBlank found = true ∨ found = text

/-- The text that the watcher started from was found last and is the only one, but the first verdict
is on what was loaded before it, which was edited in the meantime. -/
def Missed (path : String) (loaded file : FileState) (turns : List Turn) : Prop :=
  ∃ text, file.text = .ok text ∧ (parseConfig text).isOk ≠ (loadConfig loaded).isOk ∧
    OnlyFinds path text turns ∧ (contents path file turns).getLast? = some (.ok text)

variable {path : String} {loaded file : FileState} {turns : List Turn}

theorem not_faulty_of_valid {text : String} (h : isConfigText text = true) :
    ¬ isFaultyText text = true := by
  obtain ⟨_, config, hparse⟩ := (isConfigText_iff text).mp h
  simp [isFaultyText, hparse, Except.isOk, Except.toBool]

theorem isOk_of_faulty {text : String} (h : isFaultyText text = true) :
    (parseConfig text).isOk = false := by
  simp only [isFaultyText, Bool.and_eq_true, Bool.not_eq_true'] at h
  exact h.2

theorem validText?_of_faulty {text : String} (h : isFaultyText text = true) :
    validText? (.ok text) = none := by
  cases hvalid : isConfigText text with
  | false => simp [validText?, hvalid]
  | true => exact absurd h (not_faulty_of_valid hvalid)

theorem valid_reading {reading? : Option (Except ReadError String)} {text : String}
    (h : reading?.bind validText? = some text) :
    reading? = some (.ok text) ∧ isConfigText text = true := by
  rcases reading? with _ | e | found
  · cases h
  · cases h
  · cases hvalid : isConfigText found with
    | false => simp [validText?, hvalid] at h
    | true =>
      obtain rfl : found = text := by simpa [validText?, hvalid] using h
      exact ⟨rfl, hvalid⟩

theorem isConfigText_of_mem {text : String} (h : text ∈ validTexts path file turns) :
    isConfigText text = true := by
  obtain ⟨reading, _, hreading⟩ := List.mem_filterMap.mp h
  exact (valid_reading (show (some reading).bind validText? = some text from hreading)).2

theorem baseline?_of_valid {text : String} {baseline? : Option String}
    (hvalid : isConfigText text = true)
    (h : Text.isBlank text = true ∨ baseline? = some text) : baseline? = some text := by
  rcases h with hblank | hsame
  · have hnonblank := ((isConfigText_iff text).mp hvalid).1
    exact absurd (hblank.symm.trans hnonblank) Bool.noConfusion
  · exact hsame

@[simp] theorem readings_nil (path : String) : readings path [] = [] := rfl

theorem readings_cons (path : String) (t : Turn) (turns : List Turn) :
    readings path (t :: turns) = (t.reading? path).toList ++ readings path turns := by
  cases h : t.reading? path <;> simp [readings, h]

theorem readings_append (path : String) (turns later : List Turn) :
    readings path (turns ++ later) = readings path turns ++ readings path later :=
  List.filterMap_append ..

theorem readings_concat (path : String) (turns : List Turn) (t : Turn) :
    readings path (turns ++ [t]) = readings path turns ++ (t.reading? path).toList := by
  rw [readings_append, readings_cons, readings_nil, List.append_nil]

theorem contents_append (path : String) (file : FileState) (turns later : List Turn) :
    contents path file (turns ++ later) = contents path file turns ++ readings path later := by
  rw [contents, readings_append]
  rfl

theorem contents_concat (path : String) (file : FileState) (turns : List Turn) (t : Turn) :
    contents path file (turns ++ [t]) = contents path file turns ++ (t.reading? path).toList := by
  rw [contents, readings_concat]
  rfl

theorem validTexts_concat (path : String) (file : FileState) (turns : List Turn) (t : Turn) :
    validTexts path file (turns ++ [t]) =
      validTexts path file turns ++ ((t.reading? path).bind validText?).toList := by
  rw [validTexts, contents_concat, List.filterMap_append]
  rcases t.reading? path with _ | reading
  · rfl
  · cases h : validText? reading <;> simp [validTexts, h]

theorem OnlyFinds.concat {text : String} {t : Turn} (h : OnlyFinds path text turns)
    (ht : ∀ found, t.reading? path = some (.ok found) → Text.isBlank found = true ∨ found = text) :
    OnlyFinds path text (turns ++ [t]) := by
  intro found hfound
  rw [readings_concat, List.mem_append, Option.mem_toList] at hfound
  exact hfound.elim (h found) (ht found)

theorem baseline?_follow (path : String) (loaded file : FileState) (turns : List Turn) :
    ((start path loaded file).follow turns).watcher.baseline?.filter isConfigText =
      (validTexts path file turns).getLast? := by
  induction turns using List.reverseRecOn with
  | nil =>
    rcases htext : file.text with e | text
    · simp [start, watcher, Monitor.start, Watcher.start, validTexts, contents, readings, htext,
        validText?]
    · cases hvalid : isConfigText text <;>
        simp [start, watcher, Monitor.start, Watcher.start, validTexts, contents, readings, htext,
          validText?, hvalid]
  | append_singleton turns t ih =>
    have hpath := path_follow path loaded file turns
    rw [follow_concat, validTexts_concat, List.getLast?_append]
    cases ((start path loaded file).follow turns).effect_take t with
    | unchanged hreading hwatcher =>
      rw [hpath] at hreading
      rw [hwatcher]
      rcases hfound : (t.reading? path).bind validText? with _ | text
      · simpa using ih
      · obtain ⟨hread, hvalid⟩ := valid_reading hfound
        have hremembered := baseline?_of_valid hvalid (hreading text hread)
        simp [hremembered, hvalid]
    | faulty text hreading hfaulty _ hwatcher =>
      rw [hpath] at hreading
      rw [hwatcher]
      simpa [hreading, validText?_of_faulty hfaulty] using ih
    | fresh text _ hreading hvalid _ hwatcher =>
      rw [hpath] at hreading
      rw [hwatcher]
      simp [hreading, validText?, hvalid]
    | told _ hreading hwatcher =>
      rw [hpath] at hreading
      rw [hwatcher]
      simpa [hreading] using ih

theorem baseline?_of_getLast? (loaded : FileState) {text : String}
    (h : (validTexts path file turns).getLast? = some text) :
    ((start path loaded file).follow turns).watcher.baseline? = some text := by
  rw [← baseline?_follow path loaded] at h
  exact (Option.filter_eq_some_iff.mp h).1

theorem lastVerdict?_start (path : String) (loaded file : FileState) :
    (start path loaded file).lastVerdict? = some (loadConfig loaded).isOk := by
  cases hload : loadConfig loaded <;>
    simp [lastVerdict?, start, Monitor.start, hload, initialVerdict, Event.verdict?, Except.isOk,
      Except.toBool] <;>
    rfl

theorem text_of_baseline?_start {text : String}
    (h : (start path loaded file).watcher.baseline? = some text) : file.text = .ok text := by
  rcases htext : file.text with e | found
  · simp [start, watcher, Monitor.start, Watcher.start, htext] at h
  · simpa [start, watcher, Monitor.start, Watcher.start, htext] using h

theorem isSome_lastVerdict? (path : String) (loaded file : FileState) (turns : List Turn) :
    ((start path loaded file).follow turns).lastVerdict?.isSome = true := by
  induction turns using List.reverseRecOn with
  | nil => simp [lastVerdict?_start]
  | append_singleton turns t ih =>
    rw [follow_concat]
    cases ((start path loaded file).follow turns).effect_take t with
    | unchanged _ _ _ hverdict => rw [hverdict, ih]
    | faulty _ _ _ _ _ _ hverdict => rw [hverdict]; rfl
    | fresh _ _ _ _ _ _ _ hverdict => rw [hverdict, ih]
    | told _ _ _ _ hverdict => rw [hverdict]; rfl

theorem unreported {text : String} (hfaulty : isFaultyText text = true)
    (hsame : ((start path loaded file).follow turns).watcher.baseline? = some text) :
    file.text = .ok text ∧ ((start path loaded file).follow turns).waiting = [] ∧
      (((start path loaded file).follow turns).lastVerdict? = some false ∨
        ((start path loaded file).follow turns).lastVerdict? = some (loadConfig loaded).isOk ∧
          OnlyFinds path text turns) := by
  induction turns using List.reverseRecOn with
  | nil =>
    refine ⟨text_of_baseline?_start hsame, rfl, Or.inr ⟨lastVerdict?_start path loaded file, ?_⟩⟩
    intro found hfound
    cases hfound
  | append_singleton turns t ih =>
    have hpath := path_follow path loaded file turns
    rw [follow_concat] at hsame ⊢
    cases ((start path loaded file).follow turns).effect_take t with
    | unchanged hreading hwatcher hwaiting hverdict =>
      rw [hwatcher] at hsame
      rw [hpath, hsame] at hreading
      obtain ⟨htext, hnone, hstands⟩ := ih hsame
      rw [hwaiting, hverdict]
      refine ⟨htext, hnone, hstands.imp_right (And.imp_right fun honly => ?_)⟩
      exact honly.concat fun found hfound =>
        (hreading found hfound).imp_right (Option.some.inj ·.symm)
    | faulty _ _ _ _ hwatcher hwaiting hverdict =>
      rw [hwatcher] at hsame
      rw [hwaiting]
      exact ⟨(ih hsame).1, (ih hsame).2.1, Or.inl hverdict⟩
    | fresh found _ _ hvalid _ hwatcher =>
      rw [hwatcher] at hsame
      obtain rfl : found = text := Option.some.inj hsame
      exact absurd hfaulty (not_faulty_of_valid hvalid)
    | told _ _ hwatcher hwaiting =>
      rw [hwatcher] at hsame
      rw [(ih hsame).2.1] at hwaiting
      cases hwaiting

theorem take_of_fault {s : Monitoring} {o : Observation} (h : FindsFault s.watcher.path o) :
    (s.take (.observe o)).watcher = s.watcher ∧ (s.take (.observe o)).waiting = s.waiting ∧
      ((s.take (.observe o)).lastVerdict? = some false ∨
        ∃ text, isFaultyText text = true ∧ s.watcher.baseline? = some text) := by
  obtain ⟨fault, hread, hfaulty⟩ := h
  cases s.effect_take (.observe o) with
  | unchanged hreading hwatcher hwaiting =>
    rcases hreading fault hread with hblank | hsame
    · simp [isFaultyText, hblank] at hfaulty
    · exact ⟨hwatcher, hwaiting, Or.inr ⟨fault, hfaulty, hsame⟩⟩
  | faulty _ _ _ _ hwatcher hwaiting hverdict => exact ⟨hwatcher, hwaiting, Or.inl hverdict⟩
  | fresh found _ hreading hvalid =>
    obtain rfl : found = fault := by simpa using hreading.symm.trans hread
    exact absurd hfaulty (not_faulty_of_valid hvalid)
  | told _ hreading => exact absurd (hreading.symm.trans hread) (Option.some_ne_none _).symm

/-! ### A valid text that is back -/

theorem getLast?_of_unchanged {t : Turn} {text : String}
    (hreading : ∀ found, t.reading? path = some (.ok found) → Text.isBlank found = true ∨
      ((start path loaded file).follow turns).watcher.baseline? = some found)
    (hlatest : (validTexts path file (turns ++ [t])).getLast? = some text) :
    (validTexts path file turns).getLast? = some text ∧
      ∀ found, t.reading? path = some (.ok found) → isConfigText found = true → found = text := by
  rw [validTexts_concat, List.getLast?_append] at hlatest
  rcases hfound : (t.reading? path).bind validText? with _ | found
  · refine ⟨by simpa [hfound] using hlatest, ?_⟩
    intro found hread hvalid
    simp [hread, validText?, hvalid] at hfound
  · obtain ⟨hread, hvalid⟩ := valid_reading hfound
    obtain rfl : found = text := by simpa [hfound] using hlatest
    have hremembered := baseline?_of_valid hvalid (hreading found hread)
    refine ⟨by rw [← baseline?_follow, hremembered]; simp [hvalid], ?_⟩
    intro other hother _
    rw [hread] at hother
    cases hother
    rfl

/-- When all valid versions have their verdict and the last verdict is bad, the valid text that was
found last has been replaced, or the watcher started from it and has found nothing else. -/
theorem exists_replaced {text : String}
    (hdrained : ((start path loaded file).follow turns).waiting = [])
    (hverdict : ((start path loaded file).follow turns).lastVerdict? = some false)
    (hlatest : (validTexts path file turns).getLast? = some text) :
    (∃ before o later, turns = before ++ .observe o :: later ∧ FindsFault path o ∧
      ((start path loaded file).follow before).waiting = [] ∧
      (validTexts path file before).getLast? = some text ∧
      ∀ found, .ok found ∈ readings path later → isConfigText found = true → found = text) ∨
    (file.text = .ok text ∧ (loadConfig loaded).isOk = false ∧ OnlyFinds path text turns) := by
  induction turns using List.reverseRecOn with
  | nil =>
    have hsame := baseline?_of_getLast? loaded hlatest
    rw [follow_nil, lastVerdict?_start] at hverdict
    exact Or.inr ⟨text_of_baseline?_start hsame, Option.some.inj hverdict, by simp [OnlyFinds]⟩
  | append_singleton turns t ih =>
    have hpath := path_follow path loaded file turns
    rw [follow_concat] at hdrained hverdict
    -- A fresh text would wait and a report would be good, so the last turn read what is remembered
    -- or found the fault that the run is split at.
    cases ((start path loaded file).follow turns).effect_take t with
    | unchanged hreading _ hwaiting hsame =>
      rw [hpath] at hreading
      rw [hwaiting] at hdrained
      rw [hsame] at hverdict
      obtain ⟨hkept, hsole⟩ := getLast?_of_unchanged hreading hlatest
      rcases ih hdrained hverdict hkept with
        ⟨before, o, later, rfl, hfault, hwaits, hbefore, hrepeats⟩ | ⟨htext, hload, honly⟩
      · refine Or.inl ⟨before, o, later ++ [t], by simp, hfault, hwaits, hbefore, ?_⟩
        intro found hfound hvalid
        rw [readings_concat, List.mem_append, Option.mem_toList] at hfound
        rcases hfound with hearlier | hnow
        · exact hrepeats found hearlier hvalid
        · exact hsole found hnow hvalid
      · rw [baseline?_of_getLast? loaded hkept] at hreading
        exact Or.inr ⟨htext, hload, honly.concat fun found hfound =>
          (hreading found hfound).imp_right (Option.some.inj ·.symm)⟩
    | faulty found hreading hfaulty _ _ hwaiting =>
      rw [hpath] at hreading
      rw [hwaiting] at hdrained
      rw [validTexts_concat, hreading, Option.bind_some, validText?_of_faulty hfaulty] at hlatest
      cases t with
      | observe o =>
        refine Or.inl
          ⟨turns, o, [], rfl, ⟨found, hreading, hfaulty⟩, hdrained, by simpa using hlatest, ?_⟩
        simp
      | report => cases hreading
    | fresh _ _ _ _ _ _ hwaiting =>
      rw [hwaiting] at hdrained
      simp at hdrained
    | told _ _ _ _ htold =>
      rw [htold] at hverdict
      cases hverdict

theorem lastVerdict?_of_repeats {s : Monitoring} {text : String} {later : List Turn}
    (hpath : s.watcher.path = path) (hsame : s.watcher.baseline? = some text)
    (hwaiting : s.waiting = []) (hverdict : s.lastVerdict? = some false)
    (hrepeats : ∀ found, .ok found ∈ readings path later → isConfigText found = true →
      found = text) :
    (s.follow later).waiting = [] ∧ (s.follow later).lastVerdict? = some false := by
  induction later generalizing s with
  | nil => exact ⟨hwaiting, hverdict⟩
  | cons t later ih =>
    simp only [readings_cons, List.mem_append, Option.mem_toList] at hrepeats
    have hrest := fun found hfound => hrepeats found (Or.inr hfound)
    rw [follow_cons]
    cases s.effect_take t with
    | unchanged _ hwatcher hwaits hstays =>
      exact ih (by rw [hwatcher, hpath]) (by rw [hwatcher, hsame]) (hwaits.trans hwaiting)
        (hstays.trans hverdict) hrest
    | faulty _ _ _ _ hwatcher hwaits hstays =>
      exact ih (by rw [hwatcher, hpath]) (by rw [hwatcher, hsame]) (hwaits.trans hwaiting) hstays
        hrest
    | fresh found _ hreading hvalid hnew =>
      rw [hpath] at hreading
      rw [hrepeats found (Or.inl hreading) hvalid] at hnew
      exact absurd hsame hnew
    | told _ _ _ hwaits =>
      rw [hwaiting] at hwaits
      cases hwaits

theorem lastVerdict?_of_takenBack (h : TakenBack path loaded file turns) :
    ((start path loaded file).follow turns).waiting = [] ∧
      ((start path loaded file).follow turns).lastVerdict? = some false := by
  obtain ⟨before, o, later, text, rfl, hfault, hwaiting, hlatest, hrepeats, _⟩ := h
  have hpath := path_follow path loaded file before
  have hsame := baseline?_of_getLast? loaded hlatest
  have hvalid : isConfigText text = true := isConfigText_of_mem (List.mem_of_getLast? hlatest)
  obtain ⟨hwatcher, hwaits, hverdict | ⟨fault, hfaulty, hremembered⟩⟩ :=
    take_of_fault (hpath.symm ▸ hfault)
  · rw [follow_append, follow_cons]
    exact lastVerdict?_of_repeats (by rw [hwatcher, hpath]) (by rw [hwatcher, hsame])
      (hwaits.trans hwaiting) hverdict hrepeats
  · obtain rfl : text = fault := Option.some.inj (hsame.symm.trans hremembered)
    exact absurd hfaulty (not_faulty_of_valid hvalid)

/-- What is observed when a text is written to the file at `path`. -/
def written (path text : String) : Observation where
  change := (Edit.write (.bytes text.toByteArray)).change path
  file := .bytes text.toByteArray

theorem reading?_written (path text : String) :
    (written path text).reading? path = some (.ok text) := by
  simp [Observation.reading?, written, Edit.change, Change.concerns]

theorem takenBack_of_written (path text fault : String) (loaded : FileState)
    (hvalid : isConfigText text = true) (hfaulty : isFaultyText fault = true) :
    TakenBack path loaded (.bytes text.toByteArray)
      [.observe (written path fault), .report, .observe (written path text), .report] := by
  have hreadings : readings path [.report, .observe (written path text), .report] =
      [.ok text] := by
    simp [readings_cons, Turn.reading?, reading?_written]
  refine ⟨[], _, _, text, rfl, ⟨fault, reading?_written path fault, hfaulty⟩, rfl, ?_, ?_, ?_⟩
  · simp [validTexts, contents, readings, validText?, hvalid]
  · intro found hfound _
    rw [hreadings] at hfound
    simpa using hfound
  · rw [hreadings]
    rfl

/-! ### A faulty text that is ahead of a valid one -/

/-- When the last text is faulty and yet a good verdict came last or is still to come, a valid
version waited when that text was found, or the first verdict was good and the watcher started from
that text. -/
theorem overtaken_of_good {text : String} (hfaulty : isFaultyText text = true)
    (hlast : (contents path file turns).getLast? = some (.ok text))
    (hgood : ((start path loaded file).follow turns).waiting ≠ [] ∨
      ((start path loaded file).follow turns).lastVerdict? = some true) :
    Overtaken path loaded file turns ∨
      (file.text = .ok text ∧ (loadConfig loaded).isOk = true ∧ OnlyFinds path text turns) := by
  induction turns using List.reverseRecOn with
  | nil =>
    obtain htext : file.text = .ok text := by simpa [contents, readings] using hlast
    rcases hgood with hwaits | hverdict
    · exact absurd rfl hwaits
    · rw [follow_nil, lastVerdict?_start] at hverdict
      exact Or.inr ⟨htext, Option.some.inj hverdict, by simp [OnlyFinds]⟩
  | append_singleton turns t ih =>
    have hpath := path_follow path loaded file turns
    rw [contents_concat, List.getLast?_append] at hlast
    cases hread : t.reading? path with
    | none =>
      rw [follow_concat] at hgood
      have hbefore : ((start path loaded file).follow turns).waiting ≠ [] ∨
          ((start path loaded file).follow turns).lastVerdict? = some true := by
        cases ((start path loaded file).follow turns).effect_take t with
        | unchanged _ _ hwaiting hverdict => rwa [hwaiting, hverdict] at hgood
        | faulty _ hreading =>
          rw [hpath, hread] at hreading
          cases hreading
        | fresh _ _ hreading =>
          rw [hpath, hread] at hreading
          cases hreading
        | told _ _ _ hwaiting => exact Or.inl (by simp [hwaiting])
      rcases ih (by simpa [hread] using hlast) hbefore with
        ⟨before, o, later, rfl, hfault, hnone, hwaits⟩ | ⟨htext, hload, honly⟩
      · have hstill : readings path (later ++ [t]) = [] := by simp [readings_concat, hnone, hread]
        exact Or.inl ⟨before, o, later ++ [t], by simp, hfault, hstill, hwaits⟩
      · refine Or.inr ⟨htext, hload, honly.concat fun found hfound => ?_⟩
        cases hread.symm.trans hfound
    | some reading =>
      obtain rfl : reading = .ok text := by simpa [hread] using hlast
      cases t with
      | report => cases hread
      | observe o =>
        have hfault : FindsFault path o := ⟨text, hread, hfaulty⟩
        obtain ⟨hwatcher, hwaiting, hreported | ⟨fault, hfirst, hremembered⟩⟩ :=
          take_of_fault (s := (start path loaded file).follow turns) (hpath.symm ▸ hfault)
        · rw [follow_concat, hwaiting, hreported] at hgood
          refine Or.inl ⟨turns, o, [], rfl, hfault, rfl, ?_⟩
          simpa using hgood
        -- A fault from the start is passed over, but then no version can have been valid.
        · have hsame : ((start path loaded file).follow
              (turns ++ [.observe o])).watcher.baseline? = some fault := by
            rw [follow_concat, hwatcher, hremembered]
          obtain ⟨htext, hnone, hbad | ⟨hstands, honly⟩⟩ := unreported hfirst hsame
          · rw [hnone, hbad] at hgood
            simp at hgood
          · rw [hnone, hstands] at hgood
            have hfound : .ok text ∈ readings path (turns ++ [.observe o]) := by
              simp [readings_concat, hread]
            obtain rfl : text = fault := by
              refine (honly text hfound).resolve_left fun hblank => ?_
              simp [isFaultyText, hblank] at hfaulty
            exact Or.inr ⟨htext, by simpa using hgood, honly⟩

theorem lastVerdict?_of_waiting {s : Monitoring} {later : List Turn}
    (hpath : s.watcher.path = path) (hgood : s.waiting ≠ [] ∨ s.lastVerdict? = some true)
    (hnone : readings path later = []) (hdrained : (s.follow later).waiting = []) :
    (s.follow later).lastVerdict? = some true := by
  induction later generalizing s with
  | nil =>
    rcases hgood with hwaits | hverdict
    · exact absurd hdrained hwaits
    · exact hverdict
  | cons t later ih =>
    simp only [readings_cons, List.append_eq_nil_iff, Option.toList_eq_nil_iff] at hnone
    rw [follow_cons] at hdrained ⊢
    cases s.effect_take t with
    | unchanged _ hwatcher hwaiting hverdict =>
      exact ih (by rw [hwatcher, hpath]) (by rwa [hwaiting, hverdict]) hnone.2 hdrained
    | faulty _ hreading =>
      rw [hpath, hnone.1] at hreading
      cases hreading
    | fresh _ _ hreading =>
      rw [hpath, hnone.1] at hreading
      cases hreading
    | told _ _ hwatcher _ hverdict =>
      exact ih (by rw [hwatcher, hpath]) (Or.inr hverdict) hnone.2 hdrained

theorem lastVerdict?_of_overtaken (h : Overtaken path loaded file turns)
    (hdrained : ((start path loaded file).follow turns).waiting = []) :
    ((start path loaded file).follow turns).lastVerdict? = some true := by
  obtain ⟨before, o, later, rfl, hfault, hnone, hwaits⟩ := h
  have hpath := path_follow path loaded file before
  obtain ⟨hwatcher, hwaiting, _⟩ := take_of_fault (hpath.symm ▸ hfault)
  rw [follow_append, follow_cons] at hdrained ⊢
  exact lastVerdict?_of_waiting (by rw [hwatcher, hpath]) (Or.inl (by rwa [hwaiting])) hnone
    hdrained

/-! ### The text that was found last -/

theorem getLast?_validTexts {text : String} (hvalid : isConfigText text = true)
    (hlast : (contents path file turns).getLast? = some (.ok text)) :
    (validTexts path file turns).getLast? = some text := by
  obtain ⟨earlier, hcontents⟩ := List.getLast?_eq_some_iff.mp hlast
  simp [validTexts, hcontents, validText?, hvalid]

theorem getLast?_contents (before : List Turn) (o : Observation) (later : List Turn) :
    (contents path file (before ++ .observe o :: later)).getLast? =
      ((readings path later).getLast?.or (o.reading? path)).or
        (contents path file before).getLast? := by
  rw [contents_append, readings_cons, List.getLast?_append, List.getLast?_append]
  cases h : o.reading? path <;> simp [Turn.reading?, h]

theorem not_overtaken {text : String} (hvalid : isConfigText text = true)
    (hlast : (contents path file turns).getLast? = some (.ok text)) :
    ¬ Overtaken path loaded file turns := by
  rintro ⟨before, o, later, rfl, ⟨fault, hread, hfaulty⟩, hnone, _⟩
  rw [getLast?_contents, hnone, hread] at hlast
  obtain rfl : fault = text := by simpa using hlast
  exact not_faulty_of_valid hvalid hfaulty

theorem not_takenBack {text : String} (hfaulty : isFaultyText text = true)
    (hlast : (contents path file turns).getLast? = some (.ok text)) :
    ¬ TakenBack path loaded file turns := by
  rintro ⟨before, o, later, back, rfl, _, _, hlatest, _, hback⟩
  have hvalid : isConfigText back = true := isConfigText_of_mem (List.mem_of_getLast? hlatest)
  rw [getLast?_contents, hback] at hlast
  obtain rfl : back = text := by simpa using hlast
  exact not_faulty_of_valid hvalid hfaulty

theorem takenBack_of_bad {text : String} (hvalid : isConfigText text = true)
    (hlast : (contents path file turns).getLast? = some (.ok text))
    (hdrained : ((start path loaded file).follow turns).waiting = [])
    (hverdict : ((start path loaded file).follow turns).lastVerdict? = some false) :
    TakenBack path loaded file turns ∨
      (file.text = .ok text ∧ (loadConfig loaded).isOk = false ∧ OnlyFinds path text turns) := by
  rcases exists_replaced hdrained hverdict (getLast?_validTexts hvalid hlast) with
    ⟨before, o, later, rfl, ⟨fault, hread, hfaulty⟩, hwaits, hlatest, hrepeats⟩ | hfirst
  · refine Or.inl
      ⟨before, o, later, text, rfl, ⟨fault, hread, hfaulty⟩, hwaits, hlatest, hrepeats, ?_⟩
    rw [getLast?_contents, hread] at hlast
    rcases hlater : (readings path later).getLast? with _ | reading
    · rw [hlater] at hlast
      obtain rfl : fault = text := by simpa using hlast
      exact absurd hfaulty (not_faulty_of_valid hvalid)
    · simpa [hlater] using hlast
  · exact Or.inr hfirst

/-! ### The first verdict -/

theorem lastVerdict?_of_onlyFinds {s : Monitoring} {text : String} {later : List Turn}
    (hpath : s.watcher.path = path) (hsame : s.watcher.baseline? = some text)
    (hwaiting : s.waiting = []) (honly : OnlyFinds path text later) :
    (s.follow later).lastVerdict? = s.lastVerdict? := by
  induction later generalizing s with
  | nil => rfl
  | cons t later ih =>
    simp only [OnlyFinds, readings_cons, List.mem_append, Option.mem_toList] at honly
    have hrest : OnlyFinds path text later := fun found hfound => honly found (Or.inr hfound)
    rw [follow_cons]
    cases s.effect_take t with
    | unchanged _ hwatcher hwaits hstays =>
      rw [← hstays]
      exact ih (by rw [hwatcher, hpath]) (by rw [hwatcher, hsame]) (hwaits.trans hwaiting) hrest
    | faulty found hreading hfaulty hnew =>
      rw [hpath] at hreading
      rcases honly found (Or.inl hreading) with hblank | rfl
      · simp [isFaultyText, hblank] at hfaulty
      · exact absurd hsame hnew
    | fresh found _ hreading hvalid hnew =>
      rw [hpath] at hreading
      exact absurd (baseline?_of_valid hvalid
        ((honly found (Or.inl hreading)).imp_right fun heq => heq ▸ hsame)) hnew
    | told _ _ _ hwaits =>
      rw [hwaiting] at hwaits
      cases hwaits

theorem lastVerdict?_of_missed (h : Missed path loaded file turns) :
    ((start path loaded file).follow turns).lastVerdict? = some (loadConfig loaded).isOk := by
  obtain ⟨text, htext, -, honly, -⟩ := h
  have hsame : (start path loaded file).watcher.baseline? = some text := by
    simp [start, watcher, Monitor.start, Watcher.start, htext]
  rw [lastVerdict?_of_onlyFinds rfl hsame rfl honly, lastVerdict?_start]

/-! ### The last verdict -/

/-- Once the monitor has come to all versions, its last verdict is the one on the text that was
found last, unless a faulty text has overtaken a valid one, the valid text that the watcher remembers
is back after a faulty one, or the first verdict missed an edit. -/
theorem verdict_current_iff (path : String) (loaded file : FileState) (turns : List Turn)
    (hdrained : ((start path loaded file).follow turns).waiting = []) (text : String)
    (hlast : (contents path file turns).getLast? = some (.ok text))
    (hblank : Text.isBlank text = false) :
    ((start path loaded file).follow turns).lastVerdict? = some (parseConfig text).isOk ↔
      ¬ Overtaken path loaded file turns ∧ ¬ TakenBack path loaded file turns ∧
        ¬ Missed path loaded file turns := by
  have hvalid (hparse : (parseConfig text).isOk = true) : isConfigText text = true := by
    simp [isConfigText, hblank, hparse]
  have hfaulty (hparse : (parseConfig text).isOk = false) : isFaultyText text = true := by
    simp [isFaultyText, hblank, hparse]
  constructor
  · intro hcurrent
    refine ⟨fun hovertaken => ?_, fun hback => ?_, fun hmissed => ?_⟩
    · rw [lastVerdict?_of_overtaken hovertaken hdrained] at hcurrent
      exact not_overtaken (hvalid (Option.some.inj hcurrent).symm) hlast hovertaken
    · rw [(lastVerdict?_of_takenBack hback).2] at hcurrent
      exact not_takenBack (hfaulty (Option.some.inj hcurrent).symm) hlast hback
    · rw [lastVerdict?_of_missed hmissed] at hcurrent
      obtain ⟨found, -, hedited, -, hfound⟩ := hmissed
      obtain rfl : found = text := by simpa using hfound.symm.trans hlast
      exact hedited (Option.some.inj hcurrent).symm
  · rintro ⟨hahead, hkept, hseen⟩
    obtain ⟨verdict, hverdict⟩ :=
      Option.isSome_iff_exists.mp (isSome_lastVerdict? path loaded file turns)
    cases hparse : (parseConfig text).isOk with
    | true =>
      cases verdict with
      | true => exact hverdict
      | false =>
        rcases takenBack_of_bad (hvalid hparse) hlast hdrained hverdict with
          hback | ⟨htext, hload, honly⟩
        · exact absurd hback hkept
        · exact absurd ⟨text, htext, by simp [hparse, hload], honly, hlast⟩ hseen
    | false =>
      cases verdict with
      | false => exact hverdict
      | true =>
        rcases overtaken_of_good (hfaulty hparse) hlast (Or.inr hverdict) with
          hovertaken | ⟨htext, hload, honly⟩
        · exact absurd hovertaken hahead
        · exact absurd ⟨text, htext, by simp [hparse, hload], honly, hlast⟩ hseen

/-- The file is faulty when it is loaded, mended before the watcher starts, and spoilt again: the
last verdict is right once more. -/
theorem verdict_current_of_fault :
    let text := "[[filters]]\nname = \"limit\"\n"
    let loaded := FileState.bytes "name".toByteArray
    let file := FileState.bytes text.toByteArray
    let turns := [Turn.observe (written "filters.toml" "filters")]
    ((start "filters.toml" loaded file).follow turns).lastVerdict? = some false ∧
      ¬ Overtaken "filters.toml" loaded file turns ∧
        ¬ TakenBack "filters.toml" loaded file turns ∧
          ¬ Missed "filters.toml" loaded file turns := by
  intro text loaded file turns
  have hfaulty : isFaultyText "filters" = true := by decide +kernel
  have hbaseline : (start "filters.toml" loaded file).watcher.baseline? = some text := by
    simp [start, watcher, Monitor.start, Watcher.start, file]
  obtain ⟨_, hdrained, hbad | ⟨fault, hfault, hsame⟩⟩ :=
    take_of_fault (s := start "filters.toml" loaded file)
      ⟨"filters", reading?_written "filters.toml" "filters", hfaulty⟩
  · refine ⟨hbad, ?_⟩
    have hlast : (contents "filters.toml" file turns).getLast? = some (.ok "filters") := by
      simp [contents, readings_cons, turns, Turn.reading?, reading?_written]
    have hiff :=
      verdict_current_iff "filters.toml" loaded file turns hdrained "filters" hlast
        (by decide +kernel)
    rw [isOk_of_faulty hfaulty] at hiff
    exact hiff.mp hbad
  · obtain rfl : text = fault := Option.some.inj (hbaseline.symm.trans hsame)
    exact absurd hfault (by decide +kernel)

/-- Even when the file is not edited between the two readings, a fault that is taken back leaves a
verdict that is out of date. -/
theorem verdict_outdated :
    ¬ ∀ (path : String) (file : FileState) (turns : List Turn) (text : String),
      ((start path file file).follow turns).waiting = [] →
      (contents path file turns).getLast? = some (.ok text) → Text.isBlank text = false →
      ((start path file file).follow turns).lastVerdict? = some (parseConfig text).isOk := by
  intro hclaim
  let text := "[[filters]]\nname = \"limit\"\n"
  have hvalid : isConfigText text = true := by decide +kernel
  obtain ⟨hblank, config, hparse⟩ := (isConfigText_iff text).mp hvalid
  obtain ⟨hdrained, hbad⟩ :=
    lastVerdict?_of_takenBack
      (takenBack_of_written "filters.toml" text "filters" _ hvalid (by decide +kernel))
  have hgood := hclaim _ _ _ text hdrained
    (by simp [contents, readings_cons, Turn.reading?, reading?_written]) hblank
  rw [hbad, hparse] at hgood
  cases hgood

end Monitoring

end FilterGateway
