import FilterGateway.Live.Watcher
import Mathlib.Data.List.Chain
import Mathlib.Data.List.Induction

/-!
# What a watcher emits

A watcher emits the valid texts that it finds in its file, except those that equal the text before
them. What it remembers between two changes is the text that it emitted last, so a text that is
blank, invalid or unreadable has no influence on later ones.
-/

namespace FilterGateway

/-- A change that a watcher hears of, with the file as it is then. -/
structure Observation where
  change : Change
  file : FileState

/-- Whether a text is neither blank nor an invalid configuration. -/
def isConfigText (text : String) : Bool :=
  !Text.isBlank text && (parseConfig text).isOk

theorem isConfigText_iff (text : String) :
    isConfigText text = true ↔
      Text.isBlank text = false ∧ ∃ config, parseConfig text = .ok config := by
  rcases hparse : parseConfig text with e | config <;>
    simp [isConfigText, hparse, Except.isOk, Except.toBool]

def validText? : Except ReadError String → Option String
  | .ok text => if isConfigText text then some text else none
  | .error _ => none

namespace Observation

/-- What is read from the file at `path`, if the change concerns it. -/
def reading? (path : String) (o : Observation) : Option (Except ReadError String) :=
  if o.change.concerns path then some o.file.text else none

/-- The valid text that is found in the file at `path`. -/
def configText? (path : String) (o : Observation) : Option String :=
  (o.reading? path).bind validText?

theorem filterMap_configText? (path : String) (os : List Observation) :
    os.filterMap (configText? path) = (os.filterMap (reading? path)).filterMap validText? :=
  List.filterMap_filterMap.symm

end Observation

/-- The texts sent after one more text: it is sent unless it equals the text that was sent last or,
as long as none was sent, the text that was there at the start. -/
def sendNew (baseline? : Option String) (sent : List String) (text : String) : List String :=
  if sent.getLast?.or baseline? = some text then sent else sent ++ [text]

def dueTexts (baseline? : Option String) (texts : List String) : List String :=
  texts.foldl (sendNew baseline?) []

theorem dueTexts_concat (baseline? : Option String) (texts : List String) (text : String) :
    dueTexts baseline? (texts ++ [text]) = sendNew baseline? (dueTexts baseline? texts) text := by
  simp [dueTexts]

theorem getLast?_sendNew (baseline? : Option String) (sent : List String) (text : String) :
    (sendNew baseline? sent text).getLast?.or baseline? = some text := by
  by_cases hsame : sent.getLast?.or baseline? = some text
  · rw [sendNew, if_pos hsame]
    exact hsame
  · rw [sendNew, if_neg hsame]
    simp

theorem dueTexts_isChain (baseline? : Option String) (texts : List String) :
    (baseline?.toList ++ dueTexts baseline? texts).IsChain (· ≠ ·) := by
  induction texts using List.reverseRecOn with
  | nil => cases baseline? <;> simp [dueTexts]
  | append_singleton texts text ih =>
    rw [dueTexts_concat]
    by_cases hsame : (dueTexts baseline? texts).getLast?.or baseline? = some text
    · rw [sendNew, if_pos hsame]
      exact ih
    · rw [sendNew, if_neg hsame, ← List.append_assoc]
      refine List.isChain_append.mpr ⟨ih, List.isChain_singleton _, ?_⟩
      intro last hlast first hfirst heq
      obtain rfl : text = first := by simpa using hfirst
      have hbefore : (baseline?.toList ++ dueTexts baseline? texts).getLast? =
          (dueTexts baseline? texts).getLast?.or baseline? := by
        rw [List.getLast?_append]
        cases baseline? <;> rfl
      apply hsame
      rw [← hbefore, ← heq]
      exact hlast

namespace Watcher

def after (w : Watcher) (os : List Observation) : Watcher :=
  os.foldl (fun w o => (w.notice o.change o.file).2) w

def emissions (w : Watcher) : List Observation → List GatewayConfig
  | [] => []
  | o :: os =>
    (w.notice o.change o.file).1.emitted?.toList ++ emissions (w.notice o.change o.file).2 os

@[simp] theorem after_nil (w : Watcher) : w.after [] = w := rfl

@[simp] theorem after_cons (w : Watcher) (o : Observation) (os : List Observation) :
    w.after (o :: os) = (w.notice o.change o.file).2.after os := rfl

theorem after_append (w : Watcher) (os os' : List Observation) :
    w.after (os ++ os') = (w.after os).after os' :=
  List.foldl_append ..

@[simp] theorem after_concat (w : Watcher) (os : List Observation) (o : Observation) :
    w.after (os ++ [o]) = ((w.after os).notice o.change o.file).2 :=
  w.after_append os [o]

theorem emissions_append (w : Watcher) (os os' : List Observation) :
    w.emissions (os ++ os') = w.emissions os ++ (w.after os).emissions os' := by
  induction os generalizing w with
  | nil => rfl
  | cons first os ih => simp [emissions, ih]

theorem emissions_concat (w : Watcher) (os : List Observation) (o : Observation) :
    w.emissions (os ++ [o]) =
      w.emissions os ++ ((w.after os).notice o.change o.file).1.emitted?.toList := by
  simp [emissions_append, emissions]

theorem notice_of_idle {w : Watcher} {o : Observation} (h : o.configText? w.path = none) :
    (w.notice o.change o.file).1.emitted? = none ∧ (w.notice o.change o.file).2 = w := by
  simp only [Observation.configText?, Observation.reading?] at h
  by_cases hconcerns : o.change.concerns w.path = true
  · cases hread : o.file.text with
    | error e => simp [notice, hconcerns, hread]
    | ok text =>
      have hinvalid : isConfigText text = false := by simpa [hconcerns, hread, validText?] using h
      by_cases hsame : w.baseline? = some text
      · simp [notice, hconcerns, hread, inspect, hsame]
      · by_cases hblank : Text.isBlank text = true
        · simp [notice, hconcerns, hread, inspect, hsame, hblank]
        · rcases hparse : parseConfig text with e | config
          · simp [notice, hconcerns, hread, inspect, hsame, hblank, hparse]
          · have hvalid := (isConfigText_iff text).mpr ⟨by simpa using hblank, config, hparse⟩
            rw [hvalid] at hinvalid
            exact Bool.noConfusion hinvalid
  · simp [notice, hconcerns]

theorem notice_of_configText {w : Watcher} {o : Observation} {text : String}
    (h : o.configText? w.path = some text) :
    ∃ config, parseConfig text = .ok config ∧
      (w.notice o.change o.file).1.emitted? =
        (if w.baseline? = some text then none else some config) ∧
      (w.notice o.change o.file).2 = { w with baseline? := some text } := by
  simp only [Observation.configText?, Observation.reading?] at h
  by_cases hconcerns : o.change.concerns w.path = true
  · cases hread : o.file.text with
    | error e => simp [hconcerns, hread, validText?] at h
    | ok found =>
      obtain ⟨hvalid, rfl⟩ : isConfigText found = true ∧ found = text := by
        simpa [hconcerns, hread, validText?] using h
      obtain ⟨hblank, config, hparse⟩ := (isConfigText_iff found).mp hvalid
      refine ⟨config, hparse, ?_⟩
      by_cases hsame : w.baseline? = some found
      · simp [notice, hconcerns, hread, inspect, ← hsame]
      · simp [notice, hconcerns, hread, inspect, hsame, hblank, hparse]
  · simp [hconcerns] at h

/-- What a watcher remembers is the text that it emitted last, or the one that it started with. -/
theorem emissions_eq (w : Watcher) (os : List Observation) :
    let sent := dueTexts w.baseline? (os.filterMap (Observation.configText? w.path))
    (w.emissions os).map Except.ok = sent.map parseConfig ∧
      (w.after os).path = w.path ∧ (w.after os).baseline? = sent.getLast?.or w.baseline? := by
  induction os using List.reverseRecOn with
  | nil => exact ⟨rfl, rfl, rfl⟩
  | append_singleton os o ih =>
    obtain ⟨hsent, hpath, hbaseline⟩ := ih
    -- What is due next depends on all that was sent before, so the last observation is split off.
    rcases htext : o.configText? w.path with _ | text
    · obtain ⟨hnone, hkept⟩ := notice_of_idle (hpath ▸ htext)
      rw [emissions_concat, after_concat, hnone, hkept, List.filterMap_append]
      simpa [htext] using ⟨hsent, hpath, hbaseline⟩
    · obtain ⟨config, hparse, hemitted, hnext⟩ := notice_of_configText (hpath ▸ htext)
      have htexts : (os ++ [o]).filterMap (Observation.configText? w.path) =
          os.filterMap (Observation.configText? w.path) ++ [text] := by
        simp [List.filterMap_append, htext]
      simp only [htexts, dueTexts_concat, emissions_concat, after_concat, hemitted, hnext]
      refine ⟨?_, hpath, (getLast?_sendNew _ _ _).symm⟩
      rw [hbaseline, List.map_append, hsent]
      by_cases hsame : (dueTexts w.baseline?
          (os.filterMap (Observation.configText? w.path))).getLast?.or w.baseline? = some text
      · simp [sendNew, hsame]
      · simp [sendNew, hsame, hparse]

theorem emissions_filter (w : Watcher) (os : List Observation) :
    w.emissions (os.filter fun o => (o.configText? w.path).isSome) = w.emissions os := by
  induction os generalizing w with
  | nil => rfl
  | cons o os ih =>
    rcases htext : o.configText? w.path with _ | text
    · obtain ⟨hnone, hkept⟩ := notice_of_idle htext
      rw [List.filter_cons_of_neg (by simp [htext]), ih w]
      simp [emissions, hnone, hkept]
    · obtain ⟨config, _, _, hnext⟩ := notice_of_configText htext
      have hpath : (w.notice o.change o.file).2.path = w.path := by rw [hnext]
      have hrest := ih (w.notice o.change o.file).2
      rw [hpath] at hrest
      rw [List.filter_cons_of_pos (by simp [htext]), emissions, emissions, hrest]

theorem getLast?_dueTexts {path text : String} {os : List Observation} (baseline? : Option String)
    (hlast : (os.filterMap (Observation.reading? path)).getLast? = some (.ok text))
    (hvalid : isConfigText text = true) :
    (dueTexts baseline? (os.filterMap (Observation.configText? path))).getLast?.or baseline? =
      some text := by
  obtain ⟨earlier, hreadings⟩ := List.getLast?_eq_some_iff.mp hlast
  have htexts : os.filterMap (Observation.configText? path) =
      earlier.filterMap validText? ++ [text] := by
    rw [Observation.filterMap_configText?, hreadings, List.filterMap_append]
    simp [validText?, hvalid]
  rw [htexts, dueTexts_concat, getLast?_sendNew]

theorem baseline?_after {w : Watcher} {first text : String} {os : List Observation}
    (hfirst : w.baseline? = some first)
    (hlast : (os.filterMap (Observation.reading? w.path)).getLast?.getD (.ok first) = .ok text)
    (hvalid : isConfigText text = true) : (w.after os).baseline? = some text := by
  rw [(w.emissions_eq os).2.2, hfirst]
  rcases hreadings : (os.filterMap (Observation.reading? w.path)).getLast? with _ | reading
  · have hnil : os.filterMap (Observation.configText? w.path) = [] := by
      rw [Observation.filterMap_configText?, List.getLast?_eq_none_iff.mp hreadings]
      rfl
    obtain rfl : first = text := by simpa [hreadings] using hlast
    simp [hnil, dueTexts]
  · obtain rfl : reading = .ok text := by simpa [hreadings] using hlast
    exact getLast?_dueTexts _ hreadings hvalid

/-- A watcher emits the configurations of the valid texts that it finds in its file, but none of a
text that equals the one sent before it or, as long as none was sent, the text at the start. Two
texts in a row never equal each other, what is not a valid text changes nothing, and a valid text
that was found last is the last one sent or the one at the start. -/
theorem emissions_of_observations (path : String) (loaded? : Option String) (file : FileState)
    (os : List Observation) :
    let w := start path loaded? file
    let baseline? := loaded?.or file.text.toOption
    let sent := dueTexts baseline? (os.filterMap (Observation.configText? path))
    (w.emissions os).map Except.ok = sent.map parseConfig ∧
    (baseline?.toList ++ sent).IsChain (· ≠ ·) ∧
    w.emissions (os.filter fun o => (o.configText? path).isSome) = w.emissions os ∧
    (∀ text config, (os.filterMap (Observation.reading? path)).getLast? = some (.ok text) →
      Text.isBlank text = false → parseConfig text = .ok config →
      sent.getLast?.or baseline? = some text) := by
  intro w baseline? sent
  have hbaseline : w.baseline? = baseline? := by
    simp only [w, baseline?, start]
    cases loaded? with
    | none => cases file.text <;> rfl
    | some text => rfl
  refine ⟨?_, dueTexts_isChain _ _, w.emissions_filter os, ?_⟩
  · have hsent := (w.emissions_eq os).1
    rw [hbaseline] at hsent
    exact hsent
  · intro text config hlast hblank hparse
    exact getLast?_dueTexts _ hlast ((isConfigText_iff text).mpr ⟨hblank, config, hparse⟩)

end Watcher

end FilterGateway
