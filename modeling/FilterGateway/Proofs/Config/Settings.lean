import FilterGateway.Config.Load
import Mathlib

/-!
# Settings that are not written

A configuration is a table whose sections are tables again. Keys that the schema does not name have
no part in what the table stands for, and a setting that is not written has its default. So a table
may be edited in both ways, at each level, and its answer stays the same.
-/

namespace FilterGateway

/-- The entries of a table, in the order of the document. -/
abbrev Entries := List (String × Toml.Value)

/-- The settings of a table: the keys that are named, the values that optional settings have when
they are not written, and the edits of a value that the settings below it allow. -/
structure Schema where
  names : List String
  defaults : Entries
  within : String → Toml.Value → Toml.Value → Prop := fun _ _ _ => False

/-- One edit of a table: a key without a meaning is added, a default is written out, or a value is
edited below. Read backwards, the key is removed or the setting is left out. -/
inductive Schema.Edit (schema : Schema) : Entries → Entries → Prop where
  | unnamed {key : String} (before after : Entries) (value : Toml.Value)
      (h : key ∉ schema.names) :
      Edit schema (before ++ after) (before ++ (key, value) :: after)
  | default {key : String} {value : Toml.Value} (before after : Entries)
      (h : (key, value) ∈ schema.defaults) (absent : key ∉ (before ++ after).map Prod.fst) :
      Edit schema (before ++ after) (before ++ (key, value) :: after)
  | within {key : String} {value value' : Toml.Value} (before after : Entries)
      (h : schema.within key value value') :
      Edit schema (before ++ (key, value) :: after) (before ++ (key, value') :: after)

/-- How a record with these settings is read: its `start` is what it is without any. -/
structure Schema.Fits {β : Type} (schema : Schema)
    (set : β → String → Toml.Value → Except DecodeError β) (start : β) : Prop where
  unnamed : ∀ b key value, key ∉ schema.names → set b key value = .ok b
  default : ∀ key value, (key, value) ∈ schema.defaults → set start key value = .ok start
  kept : ∀ key value, (key, value) ∈ schema.defaults → ∀ b b' key' value', key' ≠ key →
    set b key' value' = .ok b' → set b key value = .ok b → set b' key value = .ok b'
  within : ∀ key value value', schema.within key value value' →
    ∀ b, set b key value = set b key value'

theorem Format.record_table {β : Type} (title : String) (names : List String)
    (set : β → String → Toml.Value → Except DecodeError β) (start : β) (entries : Entries) :
    toml.record title names set start (.table entries) =
      entries.foldlM (fun b entry => set b entry.1 entry.2) start := by
  -- A table has no surplus, so what is left is the fold itself.
  have hbind : toml.record title names set start (.table entries) =
      entries.foldlM (fun b entry => set b entry.1 entry.2) start >>= pure := rfl
  rw [hbind, bind_pure]

namespace Schema.Fits

variable {β : Type} {schema : Schema} {set : β → String → Toml.Value → Except DecodeError β}
  {start : β}

theorem default_foldlM (h : schema.Fits set start) {key : String} {value : Toml.Value}
    (hdefault : (key, value) ∈ schema.defaults) {before : Entries}
    (habsent : key ∉ before.map Prod.fst) {b b' : β} (hb : set b key value = .ok b)
    (hbefore : before.foldlM (fun b entry => set b entry.1 entry.2) b = .ok b') :
    set b' key value = .ok b' := by
  induction before generalizing b with
  | nil =>
    obtain rfl := Except.ok.inj hbefore
    exact hb
  | cons entry before ih =>
    rw [List.map_cons, List.mem_cons, not_or] at habsent
    rw [List.foldlM_cons] at hbefore
    rcases hstep : set b entry.1 entry.2 with e | next <;> rw [hstep] at hbefore
    · cases hbefore
    · exact ih habsent.2 (h.kept key value hdefault b next _ _ (Ne.symm habsent.1) hstep hb) hbefore

/-- Edits do not change what a record is read as, nor what is reported instead. -/
theorem foldlM_of_edit (h : schema.Fits set start) {entries entries' : Entries}
    (hedit : schema.Edit entries entries') :
    entries.foldlM (fun b entry => set b entry.1 entry.2) start =
      entries'.foldlM (fun b entry => set b entry.1 entry.2) start := by
  cases hedit with
  | unnamed before after value hkey =>
    rw [List.foldlM_append, List.foldlM_append]
    congr 1
    funext b
    rw [List.foldlM_cons, h.unnamed b _ value hkey]
    rfl
  | default before after hdefault habsent =>
    -- What stands before the default has other keys, so it finds its setting as it was.
    rw [List.map_append, List.mem_append, not_or] at habsent
    rw [List.foldlM_append, List.foldlM_append]
    rcases hbefore : before.foldlM (fun b entry => set b entry.1 entry.2) start with e | b <;>
      rw [hbefore]
    · rfl
    · have hb := h.default_foldlM hdefault habsent.1 (h.default _ _ hdefault) hbefore
      simp only [List.foldlM_cons, bind, Except.bind, hb]
  | within before after hwithin =>
    rw [List.foldlM_append, List.foldlM_append]
    congr 1
    funext b
    rw [List.foldlM_cons, List.foldlM_cons, h.within _ _ _ hwithin b]

theorem record_of_edit (h : schema.Fits set start) (title : String) (names : List String)
    {entries entries' : Entries} (hedit : schema.Edit entries entries') :
    Format.toml.record title names set start (.table entries) =
      Format.toml.record title names set start (.table entries') := by
  rw [Format.record_table, Format.record_table, h.foldlM_of_edit hedit]

end Schema.Fits

/-! ### The settings of a configuration -/

def Descriptor.schema : Schema where
  names := fieldNames
  defaults := [("options", .table [])]

def ReloadConfig.schema : Schema where
  names := fieldNames
  defaults := [("policy", .text "reject"), ("watch", .bool true), ("poll_interval_secs", .int 2)]

def ObservabilityConfig.schema : Schema where
  names := fieldNames
  defaults := [("log_level", .text "info")]

/-- One edit of a section, or of one filter in a list of filters. -/
inductive GatewayConfig.SectionEdit : String → Toml.Value → Toml.Value → Prop where
  | reload {entries entries' : Entries} (h : ReloadConfig.schema.Edit entries entries') :
      SectionEdit "reload" (.table entries) (.table entries')
  | observability {entries entries' : Entries}
      (h : ObservabilityConfig.schema.Edit entries entries') :
      SectionEdit "observability" (.table entries) (.table entries')
  | filter {entries entries' : Entries} (before after : List Entries)
      (h : Descriptor.schema.Edit entries entries') :
      SectionEdit "filters" (.tables (before ++ entries :: after))
        (.tables (before ++ entries' :: after))
  | item {entries entries' : Entries} (before after : List Toml.Value)
      (h : Descriptor.schema.Edit entries entries') :
      SectionEdit "filters" (.list (before ++ .table entries :: after))
        (.list (before ++ .table entries' :: after))

def GatewayConfig.schema : Schema where
  names := fieldNames
  defaults := [("filters", .list []), ("reload", .table ReloadConfig.schema.defaults),
    ("observability", .table ObservabilityConfig.schema.defaults)]
  within := SectionEdit

/-! ### Reading them -/

theorem Format.map_eq_ok {α β : Type} {g : α → β} {result : Except DecodeError α} {b : β}
    (h : result.map g = .ok b) : ∃ a, g a = b := by
  cases result with
  | error e => cases h
  | ok a => exact ⟨a, Except.ok.inj h⟩

namespace ReloadConfig

variable {b b' : ReloadConfig}

theorem set_frame {key : String} {value : Toml.Value} (h : set Format.toml b key value = .ok b') :
    (key ≠ "policy" → b'.policy = b.policy) ∧ (key ≠ "watch" → b'.watch = b.watch) ∧
      (key ≠ "poll_interval_secs" → b'.pollInterval = b.pollInterval) := by
  rw [set] at h
  split at h
  case isTrue hkey =>
    obtain ⟨policy, rfl⟩ := Format.map_eq_ok h
    simp [hkey]
  split at h
  case isTrue hkey =>
    obtain ⟨watch, rfl⟩ := Format.map_eq_ok h
    simp [hkey]
  split at h
  case isTrue hkey =>
    obtain ⟨pollInterval, rfl⟩ := Format.map_eq_ok h
    simp [hkey]
  obtain rfl := Except.ok.inj h
  simp

theorem fits : schema.Fits (set Format.toml) {} where
  unnamed b key value h := by
    obtain ⟨hpolicy, hwatch, hinterval⟩ : key ≠ "policy" ∧ key ≠ "watch" ∧
        key ≠ "poll_interval_secs" := by
      simpa [schema, fieldNames] using h
    rw [set, if_neg hpolicy, if_neg hwatch, if_neg hinterval]
  default key value h := by
    simp only [schema, List.mem_cons, Prod.mk.injEq, List.not_mem_nil, or_false] at h
    rcases h with ⟨rfl, rfl⟩ | ⟨rfl, rfl⟩ | ⟨rfl, rfl⟩ <;> rfl
  kept key value h b b' key' value' hne hset hb := by
    obtain ⟨hpolicy, hwatch, hinterval⟩ := set_frame hset
    simp only [schema, List.mem_cons, Prod.mk.injEq, List.not_mem_nil, or_false] at h
    -- A default that changes nothing stands in its field, and the other key keeps this field.
    rcases h with ⟨rfl, rfl⟩ | ⟨rfl, rfl⟩ | ⟨rfl, rfl⟩
    · have hfield : .reject = b.policy := congrArg policy (Except.ok.inj hb)
      rw [← hpolicy hne] at hfield
      exact congrArg (fun policy => Except.ok { b' with policy }) hfield
    · have hfield : true = b.watch := congrArg watch (Except.ok.inj hb)
      rw [← hwatch hne] at hfield
      exact congrArg (fun watch => Except.ok { b' with watch }) hfield
    · have hfield : 2 = b.pollInterval := congrArg pollInterval (Except.ok.inj hb)
      rw [← hinterval hne] at hfield
      exact congrArg (fun pollInterval => Except.ok { b' with pollInterval }) hfield
  within key value value' h := h.elim

theorem decode_of_edit {entries entries' : Entries} (h : schema.Edit entries entries') :
    decode Format.toml (.table entries) = decode Format.toml (.table entries') :=
  fits.record_of_edit _ _ h

end ReloadConfig

namespace ObservabilityConfig

theorem fits : schema.Fits (set Format.toml) {} where
  unnamed b key value h := by
    have hlevel : key ≠ "log_level" := by simpa [schema, fieldNames] using h
    rw [set, if_neg hlevel]
  default key value h := by
    simp only [schema, List.mem_cons, Prod.mk.injEq, List.not_mem_nil, or_false] at h
    obtain ⟨rfl, rfl⟩ := h
    rfl
  kept key value h b b' key' value' hne hset hb := by
    simp only [schema, List.mem_cons, Prod.mk.injEq, List.not_mem_nil, or_false] at h
    obtain ⟨rfl, rfl⟩ := h
    rw [set, if_neg hne] at hset
    obtain rfl := Except.ok.inj hset
    exact hb
  within key value value' h := h.elim

theorem decode_of_edit {entries entries' : Entries} (h : schema.Edit entries entries') :
    decode Format.toml (.table entries) = decode Format.toml (.table entries') :=
  fits.record_of_edit _ _ h

end ObservabilityConfig

namespace Descriptor

theorem fits : schema.Fits (Draft.set Format.toml) {} where
  unnamed d key value h := by
    obtain ⟨hname, hoptions⟩ : key ≠ "name" ∧ key ≠ "options" := by
      simpa [schema, fieldNames] using h
    rw [Draft.set, if_neg hname, if_neg hoptions]
  default key value h := by
    simp only [schema, List.mem_cons, Prod.mk.injEq, List.not_mem_nil, or_false] at h
    obtain ⟨rfl, rfl⟩ := h
    rfl
  kept key value h d d' key' value' hne hset hd := by
    simp only [schema, List.mem_cons, Prod.mk.injEq, List.not_mem_nil, or_false] at h
    obtain ⟨rfl, rfl⟩ := h
    have hoptions : [] = d.options := congrArg Draft.options (Except.ok.inj hd)
    rw [Draft.set] at hset
    split at hset
    · obtain ⟨name, rfl⟩ := Format.map_eq_ok hset
      exact congrArg (fun options => Except.ok (Draft.mk (some name) options)) hoptions
    · obtain rfl := Except.ok.inj hset
      exact hd
  within key value value' h := h.elim

theorem decode_table (entries : Entries) :
    decode Format.toml (.table entries) =
      (entries.foldlM (fun d entry => Draft.set Format.toml d entry.1 entry.2) {}).bind
        fun draft => match draft.name? with
          | none => .error (.missingField "name")
          | some name => .ok ⟨name, draft.options⟩ := rfl

theorem decode_of_edit {entries entries' : Entries} (h : schema.Edit entries entries') :
    decode Format.toml (.table entries) = decode Format.toml (.table entries') := by
  rw [decode_table, decode_table, fits.foldlM_of_edit h]

theorem decodeList_list (items : List Toml.Value) :
    decodeList Format.toml (.list items) = items.mapM (decode Format.toml) := rfl

theorem decodeList_tables (items : List Entries) :
    decodeList Format.toml (.tables items) =
      decodeList Format.toml (.list (items.map .table)) := rfl

theorem decodeList_of_edit {entries entries' : Entries} (h : schema.Edit entries entries')
    (before after : List Toml.Value) :
    decodeList Format.toml (.list (before ++ .table entries :: after)) =
      decodeList Format.toml (.list (before ++ .table entries' :: after)) := by
  rw [decodeList_list, decodeList_list, List.mapM_append, List.mapM_append, List.mapM_cons,
    List.mapM_cons, decode_of_edit h]

end Descriptor

namespace GatewayConfig

variable {b b' : GatewayConfig}

theorem set_frame {key : String} {value : Toml.Value} (h : set Format.toml b key value = .ok b') :
    (key ≠ "filters" → b'.filters = b.filters) ∧ (key ≠ "reload" → b'.reload = b.reload) ∧
      (key ≠ "observability" → b'.observability = b.observability) := by
  rw [set] at h
  split at h
  case isTrue hkey =>
    obtain ⟨filters, rfl⟩ := Format.map_eq_ok h
    simp [hkey]
  split at h
  case isTrue hkey =>
    obtain ⟨reload, rfl⟩ := Format.map_eq_ok h
    simp [hkey]
  split at h
  case isTrue hkey =>
    obtain ⟨observability, rfl⟩ := Format.map_eq_ok h
    simp [hkey]
  obtain rfl := Except.ok.inj h
  simp

theorem set_of_edit {key : String} {value value' : Toml.Value} (h : SectionEdit key value value')
    (b : GatewayConfig) : set Format.toml b key value = set Format.toml b key value' := by
  cases h with
  | reload h =>
    have hdecode := ReloadConfig.decode_of_edit h
    simp [set, hdecode]
  | observability h =>
    have hdecode := ObservabilityConfig.decode_of_edit h
    simp [set, hdecode]
  | @filter entries entries' before after h =>
    have hdecode : Descriptor.decodeList Format.toml (.tables (before ++ entries :: after)) =
        Descriptor.decodeList Format.toml (.tables (before ++ entries' :: after)) := by
      rw [Descriptor.decodeList_tables, Descriptor.decodeList_tables, List.map_append,
        List.map_append, List.map_cons, List.map_cons]
      exact Descriptor.decodeList_of_edit h _ _
    simp [set, hdecode]
  | item before after h =>
    have hdecode := Descriptor.decodeList_of_edit h before after
    simp [set, hdecode]

theorem fits : schema.Fits (set Format.toml) {} where
  unnamed b key value h := by
    obtain ⟨hfilters, hreload, hobservability⟩ : key ≠ "filters" ∧ key ≠ "reload" ∧
        key ≠ "observability" := by
      simpa [schema, fieldNames] using h
    rw [set, if_neg hfilters, if_neg hreload, if_neg hobservability]
  default key value h := by
    simp only [schema, List.mem_cons, Prod.mk.injEq, List.not_mem_nil, or_false] at h
    rcases h with ⟨rfl, rfl⟩ | ⟨rfl, rfl⟩ | ⟨rfl, rfl⟩ <;> rfl
  kept key value h b b' key' value' hne hset hb := by
    obtain ⟨hfilters, hreload, hobservability⟩ := set_frame hset
    simp only [schema, List.mem_cons, Prod.mk.injEq, List.not_mem_nil, or_false] at h
    rcases h with ⟨rfl, rfl⟩ | ⟨rfl, rfl⟩ | ⟨rfl, rfl⟩
    · have hfield : [] = b.filters := congrArg filters (Except.ok.inj hb)
      rw [← hfilters hne] at hfield
      exact congrArg (fun filters => Except.ok { b' with filters }) hfield
    · have hfield : {} = b.reload := congrArg reload (Except.ok.inj hb)
      rw [← hreload hne] at hfield
      exact congrArg (fun reload => Except.ok { b' with reload }) hfield
    · have hfield : {} = b.observability := congrArg observability (Except.ok.inj hb)
      rw [← hobservability hne] at hfield
      exact congrArg (fun observability => Except.ok { b' with observability }) hfield
  within key value value' h b := set_of_edit h b

theorem ofToml_of_edit {entries entries' : Entries} (h : schema.Edit entries entries') :
    ofToml (.table entries) = ofToml (.table entries') := by
  have hdecode : decode Format.toml (.table entries) = decode Format.toml (.table entries') :=
    fits.record_of_edit _ _ h
  rw [ofToml, ofToml, hdecode]

/-- Two tables that edits lead from one to the other, in any number and in both directions, have
the same answer: the same configuration, the same parse error, or the same faults. An edit adds a
key without a meaning or takes it away, or writes out the default of a setting or leaves it out, in
the whole table, in a section or in one of the filters. -/
theorem parseConfig_of_edits {entries entries' : Entries}
    (h : Relation.EqvGen schema.Edit entries entries') :
    ofToml (.table entries) = ofToml (.table entries') ∧
      ∀ text text', Toml.read? text = some entries → Toml.read? text' = some entries' →
        parseConfig text = parseConfig text' := by
  have hequal : ofToml (.table entries) = ofToml (.table entries') := by
    induction h with
    | rel entries entries' hedit => exact ofToml_of_edit hedit
    | refl entries => rfl
    | symm entries entries' _ ih => exact ih.symm
    | trans entries middle entries' _ _ ih ih' => exact ih.trans ih'
  refine ⟨hequal, ?_⟩
  intro text text' htext htext'
  rw [parseConfig, parseConfig, read, read, htext, htext']
  simp only [hequal]

def shortText : String :=
  "[reload]\nwatch = false\n[[filters]]\nname = \"limit\"\n"

/-- The same settings with a default in each of two tables, and with a key without a meaning. -/
def longText : String :=
  "[reload]\nburst = 3\nwatch = false\npolicy = \"reject\"\n" ++
    "[[filters]]\nname = \"limit\"\noptions = {}\n"

/-- A table with one section and one filter. -/
def oneFilter (reload filter : Entries) : Entries :=
  [("reload", .table reload), ("filters", .tables [filter])]

theorem read?_shortText :
    Toml.read? shortText = some (oneFilter [("watch", .bool false)] [("name", .text "limit")]) := by
  cbv

theorem read?_longText :
    Toml.read? longText = some (oneFilter
      [("burst", .int 3), ("watch", .bool false), ("policy", .text "reject")]
      [("name", .text "limit"), ("options", .table [])]) := by
  cbv

theorem parseConfig_of_edits_of_long : parseConfig shortText = parseConfig longText := by
  have hburst : schema.Edit
      (oneFilter [("watch", .bool false)] [("name", .text "limit")])
      (oneFilter [("burst", .int 3), ("watch", .bool false)] [("name", .text "limit")]) :=
    .within [] _ (.reload (.unnamed [] [("watch", .bool false)] (.int 3) (by decide)))
  have hpolicy : schema.Edit
      (oneFilter [("burst", .int 3), ("watch", .bool false)] [("name", .text "limit")])
      (oneFilter [("burst", .int 3), ("watch", .bool false), ("policy", .text "reject")]
        [("name", .text "limit")]) :=
    .within [] _ (.reload (.default [("burst", .int 3), ("watch", .bool false)] []
      (by simp [ReloadConfig.schema]) (by decide)))
  have hoptions : schema.Edit
      (oneFilter [("burst", .int 3), ("watch", .bool false), ("policy", .text "reject")]
        [("name", .text "limit")])
      (oneFilter [("burst", .int 3), ("watch", .bool false), ("policy", .text "reject")]
        [("name", .text "limit"), ("options", .table [])]) :=
    .within [_] [] (.filter [] [] (.default [("name", .text "limit")] []
      (by simp [Descriptor.schema]) (by decide)))
  have hedits := ((Relation.EqvGen.rel _ _ hburst).trans _ _ _ (.rel _ _ hpolicy)).trans _ _ _
    (.rel _ _ hoptions)
  exact (parseConfig_of_edits hedits).2 shortText longText read?_shortText read?_longText

end GatewayConfig

end FilterGateway
