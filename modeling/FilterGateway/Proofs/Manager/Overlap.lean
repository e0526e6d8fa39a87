import FilterGateway.Proofs.Manager.Load
import Mathlib.Data.List.Induction
import Mathlib.Data.List.Nodup

/-!
# Loads that overlap

A load takes two steps: it builds its filters without a look at the chain in force, and later it is
settled, which publishes them as the next generation or rejects them. Other loads and readers take
their steps in between, in any order. Still each published chain is all that one load has built, the
generations are 1, 2, 3 and so on, and no reader sees the generation go back.
-/

namespace FilterGateway

/-- What a load of `total` descriptors has built, until it is settled. -/
structure Draft (C : Type) where
  total : Nat
  built : Built C

/-- A manager with the loads that were begun, by their numbers. The place of a load is empty once it
is settled, and from the start when a plugin panicked. -/
structure SharedManager (σ C : Type) where
  manager : Manager σ C
  world : World σ
  drafts : List (Option (Draft C)) := []

namespace SharedManager

inductive Step where
  | build (ds : List Descriptor)
  | settle (load : Nat)
  | read (reader : Nat)

/-- What a step shows to others. After a load was settled, that is its result and the chain that is
then in force. -/
inductive Answer (C : Type) where
  | built (built? : Option (Built C))
  | settled (load : Nat) (result : Except LoadError LoadReport) (active : Chain C)
  | obtained (reader : Nat) (chain : Chain C)
  | nothing

structure Publication (C : Type) where
  load : Nat
  report : LoadReport
  chain : Chain C

namespace Answer

variable {C : Type}

def built? : Answer C → Option (Option (Built C))
  | built built? => some built?
  | _ => none

def publication? : Answer C → Option (Publication C)
  | settled load (.ok report) active => some ⟨load, report, active⟩
  | _ => none

def obtained? (reader : Nat) : Answer C → Option (Chain C)
  | obtained other chain => if other = reader then some chain else none
  | _ => none

end Answer

variable {σ C : Type}

def initial (registry : Registry σ C) (policy : ReloadPolicy) (world : World σ) :
    SharedManager σ C :=
  { manager := { registry, policy }, world }

def draft? (s : SharedManager σ C) (load : Nat) : Option (Draft C) :=
  s.drafts[load]?.join

def step (s : SharedManager σ C) : Step → Answer C × SharedManager σ C
  | .build ds =>
    let (built?, world) := s.manager.registry.build ds s.world
    (.built built?, { s with world, drafts := s.drafts ++ [built?.map (Draft.mk ds.length)] })
  | .settle load =>
    match s.draft? load with
    | none => (.nothing, s)
    | some draft =>
      let (result, manager, world) := s.manager.settle draft.total draft.built s.world
      (.settled load result manager.active, { manager, world, drafts := s.drafts.set load none })
  | .read reader => (.obtained reader s.manager.active, s)

def after (s : SharedManager σ C) (steps : List Step) : SharedManager σ C :=
  steps.foldl (fun s step => (s.step step).2) s

def answers (s : SharedManager σ C) : List Step → List (Answer C)
  | [] => []
  | step :: steps => (s.step step).1 :: answers (s.step step).2 steps

theorem after_concat (s : SharedManager σ C) (steps : List Step) (last : Step) :
    s.after (steps ++ [last]) = ((s.after steps).step last).2 := by
  simp [after]

theorem answers_concat (s : SharedManager σ C) (steps : List Step) (last : Step) :
    s.answers (steps ++ [last]) = s.answers steps ++ [((s.after steps).step last).1] := by
  induction steps generalizing s with
  | nil => rfl
  | cons first steps ih =>
    have hrest := ih (s.step first).2
    simpa [answers, after] using hrest

theorem draft?_set {s : SharedManager σ C} {m : Manager σ C} {w : World σ} {load other : Nat}
    {d : Draft C} (h : draft? ⟨m, w, s.drafts.set load none⟩ other = some d) :
    other ≠ load ∧ s.draft? other = some d := by
  have hne : other ≠ load := by
    rintro rfl
    by_cases hlt : other < s.drafts.length <;> simp [draft?, hlt] at h
  refine ⟨hne, ?_⟩
  simpa [draft?, List.getElem?_set_ne (Ne.symm hne)] using h

/-- A load whose two steps follow each other is a load of the manager. -/
theorem build_settle (s : SharedManager σ C) (ds : List Descriptor) :
    let after := s.after [.build ds, .settle s.drafts.length]
    (after.manager, after.world) = (s.manager.load ds s.world).2 := by
  rcases hbuild : s.manager.registry.build ds s.world with ⟨_ | b, w⟩ <;>
    simp [SharedManager.after, step, draft?, Manager.load, hbuild]

end SharedManager

theorem Manager.settle_cases {σ C : Type} (m : Manager σ C) (total : Nat) (b : Built C)
    (w : World σ) :
    (∃ w', m.settle total b w = (.error ⟨total, b.failures⟩, m, w')) ∨
    (∃ w', m.settle total b w =
      (.ok ⟨m.active.generation + 1, b.filters.length, b.failures⟩, m.publish b.filters, w')) := by
  cases hrejects : m.rejects b with
  | true =>
    left
    simp [settle, hrejects]
  | false =>
    right
    simp [settle, hrejects, generation]

namespace SharedManager

variable {σ C : Type}

def builds (answers : List (Answer C)) : List (Option (Built C)) :=
  answers.filterMap Answer.built?

def publications (answers : List (Answer C)) : List (Publication C) :=
  answers.filterMap Answer.publication?

def readings (reader : Nat) (answers : List (Answer C)) : List (Chain C) :=
  answers.filterMap (Answer.obtained? reader)

theorem builds_concat (answers : List (Answer C)) (last : Answer C) :
    builds (answers ++ [last]) = builds answers ++ last.built?.toList := by
  cases h : last.built? <;> simp [builds, h]

theorem publications_concat (answers : List (Answer C)) (last : Answer C) :
    publications (answers ++ [last]) = publications answers ++ last.publication?.toList := by
  cases h : last.publication? <;> simp [publications, h]

theorem readings_concat (reader : Nat) (answers : List (Answer C)) (last : Answer C) :
    readings reader (answers ++ [last]) =
      readings reader answers ++ (last.obtained? reader).toList := by
  cases h : last.obtained? reader <;> simp [readings, h]

/-- What is known of a shared manager once loads have built `builds`, chains were published and
readers have obtained `readings`. A draft is what the load of its number has built, and that load
has published nothing yet. -/
structure Explains (builds : List (Option (Built C))) (published : List (Publication C))
    (readings : Nat → List (Chain C)) (s : SharedManager σ C) : Prop where
  length_drafts : s.drafts.length = builds.length
  drafted : ∀ load d, s.draft? load = some d →
    builds[load]? = some (some d.built) ∧ load ∉ published.map Publication.load
  loads : (published.map Publication.load).Nodup
  whole : ∀ p ∈ published, ∃ b, builds[p.load]? = some (some b) ∧
    p.report = ⟨p.chain.generation, b.filters.length, b.failures⟩ ∧ p.chain.filters = b.filters
  generations : published.map (fun p => p.chain.generation) = List.range' 1 published.length
  generation : s.manager.active.generation = published.length
  active : s.manager.active = {} ∨ ∃ p ∈ published, s.manager.active = p.chain
  obtained : ∀ reader, ∀ c ∈ readings reader,
    (c = {} ∨ ∃ p ∈ published, c = p.chain) ∧ c.generation ≤ s.manager.active.generation
  ordered : ∀ reader, ((readings reader).map Chain.generation).Pairwise (· ≤ ·)

namespace Explains

variable {builds : List (Option (Built C))} {published : List (Publication C)}
  {readings : Nat → List (Chain C)} {s : SharedManager σ C}

theorem initial (registry : Registry σ C) (policy : ReloadPolicy) (world : World σ) :
    Explains [] [] (fun _ => []) (initial registry policy world) where
  length_drafts := rfl
  drafted load d h := by simp [draft?, SharedManager.initial] at h
  loads := List.nodup_nil
  whole p h := nomatch h
  generations := rfl
  generation := rfl
  active := Or.inl rfl
  obtained reader c h := nomatch h
  ordered reader := List.Pairwise.nil

theorem build (h : Explains builds published readings s) (ds : List Descriptor) {built?}
    {w : World σ}
    (hbuild : s.manager.registry.build ds s.world = (built?, w)) :
    Explains (builds ++ [built?]) published readings (s.step (.build ds)).2 := by
  have hstep : (s.step (.build ds)).2 =
      { s with world := w, drafts := s.drafts ++ [built?.map (Draft.mk ds.length)] } := by
    simp [step, hbuild]
  have hkept : ∀ (load : Nat) (b : Built C), builds[load]? = some (some b) →
      (builds ++ [built?])[load]? = some (some b) := by
    intro load b hb
    rw [List.getElem?_append_left (List.getElem?_eq_some_iff.mp hb).1]
    exact hb
  have hwhole : ∀ p ∈ published, ∃ b, (builds ++ [built?])[p.load]? = some (some b) ∧
      p.report = ⟨p.chain.generation, b.filters.length, b.failures⟩ ∧
        p.chain.filters = b.filters := by
    intro p hp
    obtain ⟨b, hb, hrest⟩ := h.whole p hp
    exact ⟨b, hkept _ _ hb, hrest⟩
  rw [hstep]
  refine { h with length_drafts := ?_, drafted := ?_, whole := hwhole }
  · simp [h.length_drafts]
  · intro load d hdraft
    rcases Nat.lt_trichotomy load s.drafts.length with hlt | heq | hgt
    · obtain ⟨hb, hnew⟩ := h.drafted load d (by
        rwa [draft?, List.getElem?_append_left hlt] at hdraft)
      exact ⟨hkept _ _ hb, hnew⟩
    · obtain ⟨b, rfl, rfl⟩ : ∃ b, built? = some b ∧ Draft.mk ds.length b = d := by
        simpa [draft?, heq] using hdraft
      refine ⟨by simp [heq, h.length_drafts], ?_⟩
      -- What is published was built before, so its load has a smaller number.
      intro hmem
      obtain ⟨p, hp, hload⟩ := List.mem_map.mp hmem
      obtain ⟨b, hb, _⟩ := h.whole p hp
      have hlt := (List.getElem?_eq_some_iff.mp hb).1
      have hlength := h.length_drafts
      omega
    · have hnone : (s.drafts ++ [built?.map (Draft.mk ds.length)])[load]? = none := by
        rw [List.getElem?_eq_none_iff, List.length_append, List.length_singleton]
        omega
      rw [draft?, hnone] at hdraft
      cases hdraft

theorem reject (h : Explains builds published readings s) (load : Nat) (w : World σ) :
    Explains builds published readings
      { s with world := w, drafts := s.drafts.set load none } := by
  refine { h with length_drafts := ?_, drafted := ?_ }
  · simp [h.length_drafts]
  · intro other d hdraft
    exact h.drafted other d (draft?_set hdraft).2

theorem publish (h : Explains builds published readings s) {load : Nat} {draft : Draft C}
    (hdraft : s.draft? load = some draft) (w : World σ) :
    Explains builds
      (published ++ [{
        load
        report :=
          ⟨s.manager.active.generation + 1, draft.built.filters.length, draft.built.failures⟩
        chain := (s.manager.publish draft.built.filters).active }])
      readings
      { manager := s.manager.publish draft.built.filters, world := w,
        drafts := s.drafts.set load none } := by
  obtain ⟨hbuilt, hnew⟩ := h.drafted load draft hdraft
  constructor
  · simp [h.length_drafts]
  · intro other d hother
    obtain ⟨hne, hbefore⟩ := draft?_set hother
    obtain ⟨hb, hfresh⟩ := h.drafted other d hbefore
    refine ⟨hb, ?_⟩
    simpa [hne] using hfresh
  · rw [List.map_append, List.nodup_append_comm]
    exact List.nodup_cons.mpr ⟨hnew, h.loads⟩
  · intro p hp
    rcases List.mem_append.mp hp with hold | hlast
    · exact h.whole p hold
    · obtain rfl := List.mem_singleton.mp hlast
      exact ⟨draft.built, hbuilt, rfl, rfl⟩
  · rw [List.map_append, h.generations, List.length_append, List.length_singleton,
      List.range'_concat]
    simp [h.generation, Nat.add_comm]
  · simp [h.generation]
  · right
    simp
  · intro reader c hc
    obtain ⟨hsource, hle⟩ := h.obtained reader c hc
    refine ⟨hsource.imp id ?_, Nat.le_succ_of_le hle⟩
    rintro ⟨p, hp, rfl⟩
    exact ⟨p, List.mem_append_left _ hp, rfl⟩
  · exact h.ordered

theorem read (h : Explains builds published readings s) (reader : Nat) :
    Explains builds published
      (fun other => readings other ++ if reader = other then [s.manager.active] else []) s := by
  refine { h with obtained := ?_, ordered := ?_ }
  · intro other c hc
    by_cases hreader : reader = other
    · rw [if_pos hreader, List.mem_append, List.mem_singleton] at hc
      rcases hc with hold | rfl
      · exact h.obtained other c hold
      · exact ⟨h.active, Nat.le_refl _⟩
    · rw [if_neg hreader, List.append_nil] at hc
      exact h.obtained other c hc
  · intro other
    by_cases hreader : reader = other
    · rw [if_pos hreader, List.map_append, List.pairwise_append]
      refine ⟨h.ordered other, List.pairwise_singleton _ _, ?_⟩
      intro earlier hearlier last hlast
      obtain ⟨c, hc, rfl⟩ := List.mem_map.mp hearlier
      obtain rfl := by simpa using hlast
      exact (h.obtained other c hc).2
    · rw [if_neg hreader, List.append_nil]
      exact h.ordered other

end Explains

theorem Explains.step {answers : List (Answer C)} {s : SharedManager σ C}
    (h : Explains (builds answers) (publications answers) (readings · answers) s) (next : Step) :
    let answers := answers ++ [(s.step next).1]
    Explains (builds answers) (publications answers) (readings · answers) (s.step next).2 := by
  simp only [builds_concat, publications_concat, readings_concat]
  cases next with
  | build ds =>
    rcases hbuild : s.manager.registry.build ds s.world with ⟨built?, w⟩
    have hnext := h.build ds hbuild
    simpa [SharedManager.step, hbuild, Answer.built?, Answer.publication?, Answer.obtained?]
      using hnext
  | settle load =>
    rcases hdraft : s.draft? load with _ | draft
    · simpa [SharedManager.step, hdraft, Answer.built?, Answer.publication?, Answer.obtained?]
        using h
    · rcases s.manager.settle_cases draft.total draft.built s.world with
        ⟨w, hsettle⟩ | ⟨w, hsettle⟩
      · have hnext := h.reject load w
        simpa [SharedManager.step, hdraft, hsettle, Answer.built?, Answer.publication?,
          Answer.obtained?] using hnext
      · have hnext := h.publish hdraft w
        simpa [SharedManager.step, hdraft, hsettle, Answer.built?, Answer.publication?,
          Answer.obtained?] using hnext
  | read reader =>
    have hnext := h.read reader
    have hreading : ∀ other, (Answer.obtained? other (.obtained reader s.manager.active)).toList =
        if reader = other then [s.manager.active] else [] := by
      intro other
      by_cases hreader : reader = other <;> simp [Answer.obtained?, hreader]
    simpa [SharedManager.step, hreading, Answer.built?, Answer.publication?] using hnext

theorem explains_answers (registry : Registry σ C) (policy : ReloadPolicy) (world : World σ)
    (steps : List Step) :
    let s := initial registry policy world
    Explains (builds (s.answers steps)) (publications (s.answers steps))
      (readings · (s.answers steps)) (s.after steps) := by
  induction steps using List.reverseRecOn with
  | nil => exact Explains.initial registry policy world
  | append_singleton steps last ih =>
    intro s
    rw [answers_concat, after_concat]
    exact ih.step last

/-- However loads and readers overlap on a new manager, the published chains have the generations 1,
2, 3 and so on, each report belongs to one published chain, which holds what its load has built, and
each load reports at most once. Readers get the empty chain or a published one, and the generations
that a reader gets never decrease. -/
theorem published_of_overlap (registry : Registry σ C) (policy : ReloadPolicy) (world : World σ)
    (steps : List Step) :
    let answers := (initial registry policy world).answers steps
    let published := publications answers
    published.map (fun p => p.chain.generation) = List.range' 1 published.length ∧
    (published.map Publication.load).Nodup ∧
    (∀ p ∈ published,
      (∃ b, (builds answers)[p.load]? = some (some b) ∧
        p.report = ⟨p.chain.generation, b.filters.length, b.failures⟩ ∧
        p.chain.filters = b.filters) ∧
      ∀ q ∈ published, q.chain.generation = p.report.generation → q = p) ∧
    ∀ reader,
      (∀ c ∈ readings reader answers, c = {} ∨ ∃ p ∈ published, c = p.chain) ∧
      ((readings reader answers).map Chain.generation).Pairwise (· ≤ ·) := by
  intro answers published
  have h := explains_answers registry policy world steps
  have hnodup : (published.map fun p => p.chain.generation).Nodup := by
    rw [h.generations]
    exact List.nodup_range'
  refine ⟨h.generations, h.loads, ?_, ?_⟩
  · intro p hp
    obtain ⟨b, hb, hreport, hfilters⟩ := h.whole p hp
    refine ⟨⟨b, hb, hreport, hfilters⟩, ?_⟩
    intro q hq hgeneration
    rw [hreport] at hgeneration
    exact List.inj_on_of_nodup_map hnodup hq hp hgeneration
  · intro reader
    refine ⟨?_, h.ordered reader⟩
    intro c hc
    exact (h.obtained reader c hc).1

end SharedManager

end FilterGateway
