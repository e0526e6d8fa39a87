import FilterGateway.Config.Load
import Mathlib.Data.List.Basic

/-!
# The faults of a configuration

A configuration is valid when each filter has a name that is not blank and the poll interval is not
zero. The faults of any other one are told completely: a blank name at each position that has one,
in increasing order, and then the poll interval. So a text has a configuration exactly when it can
be read and what is read is valid.
-/

namespace FilterGateway

namespace GatewayConfig

/-- Whether each filter has a name with a character that is no white space, and the poll interval
is positive. -/
structure Valid (config : GatewayConfig) : Prop where
  named : ∀ d ∈ config.filters, ∃ c ∈ d.name.toList, Text.isSpaceChar c = false
  rests : 0 < config.reload.pollInterval

/-- The positions of the filters with a blank name. -/
def blankPositions (config : GatewayConfig) : List Nat :=
  (config.filters.zipIdx.filter fun entry => Text.isBlank entry.1.name).map (·.2)

end GatewayConfig

theorem Text.isBlank_eq_false_iff (s : String) :
    isBlank s = false ↔ ∃ c ∈ s.toList, isSpaceChar c = false := by
  simp [isBlank]

theorem blankNames_eq (index : Nat) (ds : List Descriptor) :
    blankNames index ds =
      ((ds.zipIdx index).filter fun entry => Text.isBlank entry.1.name).map fun entry =>
        .emptyFilterName entry.2 := by
  induction ds generalizing index with
  | nil => rfl
  | cons d ds ih =>
    rw [blankNames, List.zipIdx_cons, List.filter_cons, ih]
    cases Text.isBlank d.name <;> rfl

namespace GatewayConfig

variable (config : GatewayConfig)

theorem faults_eq :
    config.faults = config.blankPositions.map .emptyFilterName ++
      (if config.reload.pollInterval = 0 then [.zeroPollInterval] else []) := by
  rw [faults, blankNames_eq, blankPositions, List.map_map]
  rfl

theorem pairwise_blankPositions : config.blankPositions.Pairwise (· < ·) := by
  have hsublist : config.blankPositions.Sublist (config.filters.zipIdx.map (·.2)) :=
    List.filter_sublist.map _
  rw [List.zipIdx_map_snd] at hsublist
  exact List.Pairwise.sublist hsublist List.pairwise_lt_range'

theorem mem_blankPositions {i : Nat} :
    i ∈ config.blankPositions ↔
      ∃ d, config.filters[i]? = some d ∧ ∀ c ∈ d.name.toList, Text.isSpaceChar c = true := by
  simp only [blankPositions, List.mem_map, List.mem_filter, Text.isBlank_iff]
  constructor
  · rintro ⟨⟨d, position⟩, ⟨hmem, hblank⟩, rfl⟩
    exact ⟨d, List.mem_zipIdx_iff_getElem?.mp hmem, hblank⟩
  · rintro ⟨d, hget, hblank⟩
    exact ⟨(d, i), ⟨List.mem_zipIdx_iff_getElem?.mpr hget, hblank⟩, rfl⟩

theorem blankPositions_eq_nil_iff :
    config.blankPositions = [] ↔
      ∀ d ∈ config.filters, ∃ c ∈ d.name.toList, Text.isSpaceChar c = false := by
  rw [List.eq_nil_iff_forall_not_mem]
  constructor
  · intro hnone d hd
    obtain ⟨i, hi, hget⟩ := List.mem_iff_getElem.mp hd
    rw [← Text.isBlank_eq_false_iff]
    by_contra hblank
    refine hnone i ((mem_blankPositions config).mpr ⟨d, ?_, ?_⟩)
    · rw [List.getElem?_eq_getElem hi, hget]
    · exact (Text.isBlank_iff _).mp (by simpa using hblank)
  · intro hnamed i hmem
    obtain ⟨d, hget, hblank⟩ := (mem_blankPositions config).mp hmem
    obtain ⟨c, hc, hvisible⟩ := hnamed d (List.mem_of_getElem? hget)
    exact Bool.noConfusion ((hblank c hc).symm.trans hvisible)

/-- A configuration without faults is a valid one. -/
theorem faults_eq_nil_iff : config.faults = [] ↔ config.Valid := by
  rw [faults_eq, List.append_eq_nil_iff, List.map_eq_nil_iff, blankPositions_eq_nil_iff]
  have hinterval : (if config.reload.pollInterval = 0 then [ValidationError.zeroPollInterval]
      else []) = [] ↔ 0 < config.reload.pollInterval := by
    rw [UInt64.pos_iff_ne_zero]
    simp
  rw [hinterval]
  exact ⟨fun ⟨hnamed, hrests⟩ => ⟨hnamed, hrests⟩, fun h => ⟨h.named, h.rests⟩⟩

theorem checked_eq_ok_iff (checked : GatewayConfig) :
    config.checked = .ok checked ↔ config = checked ∧ config.Valid := by
  rw [GatewayConfig.checked, validate, ← faults_eq_nil_iff]
  cases hfaults : config.faults <;> simp

theorem checked_of_not_valid (h : ¬config.Valid) :
    config.checked = .error (.validation config.faults) := by
  rw [← faults_eq_nil_iff] at h
  have hsome : config.faults.isEmpty = false := by simpa using h
  simp [GatewayConfig.checked, validate, hsome]

end GatewayConfig

/-- A text has a configuration exactly when it can be read and what is read is valid. -/
theorem parseConfig_eq_ok_iff {text : String} {config : GatewayConfig} :
    parseConfig text = .ok config ↔ GatewayConfig.read text = .ok config ∧ config.Valid := by
  rw [parseConfig]
  rcases hread : GatewayConfig.read text with cause | found
  · simp
  · simp only [GatewayConfig.checked_eq_ok_iff, Except.ok.injEq]
    constructor
    · rintro ⟨rfl, hvalid⟩
      exact ⟨rfl, hvalid⟩
    · rintro ⟨rfl, hvalid⟩
      exact ⟨rfl, hvalid⟩

theorem parseConfig_of_not_valid {text : String} {config : GatewayConfig}
    (hread : GatewayConfig.read text = .ok config) (h : ¬config.Valid) :
    parseConfig text = .error (.validation config.faults) := by
  simp only [parseConfig, hread, config.checked_of_not_valid h]

end FilterGateway
