import FilterGateway.Config.Decode

/-!
# The written form of a configuration

Reading accepts much more than writing produces: settings may be left out, keys without a meaning
may be added, and a record may be the list of its fields. What is written is read as it was, so the
written form of what was read is a normal form, which reading and writing leave alone.
-/

namespace FilterGateway

theorem Format.json_record_object {β : Type} (title : String) (names : List String)
    (set : β → String → Json → Except DecodeError β) (start : β) (fields : Fields) :
    json.record title names set start (.object fields) =
      fields.foldlM (fun b entry => set b entry.1 entry.2) start := by
  have hbind : json.record title names set start (.object fields) =
      fields.foldlM (fun b entry => set b entry.1 entry.2) start >>= pure := rfl
  rw [hbind, bind_pure]

theorem Format.json_record_list {β : Type} (title : String) (names : List String)
    (set : β → String → Json → Except DecodeError β) (start : β) (items : List Json)
    (h : items.length ≤ names.length) :
    json.record title names set start (.list items) =
      (names.zip items).foldlM (fun b entry => set b entry.1 entry.2) start := by
  have hsurplus : json.noSurplus names ⟨names.zip items, some items.length⟩ = .ok () := by
    simp [noSurplus, Nat.not_lt.mpr h]
  have hbind : json.record title names set start (.list items) =
      (names.zip items).foldlM (fun b entry => set b entry.1 entry.2) start >>= fun result =>
        json.noSurplus names ⟨names.zip items, some items.length⟩ >>= fun _ => pure result := rfl
  rw [hbind, hsurplus]
  exact bind_pure _

theorem Format.json_word (n : UInt64) : json.word (.int n.toNat) = .ok n := by
  have hadmits : IntWidth.u64.admits n.toNat := by
    have hlt := n.toNat_lt
    simp only [IntWidth.admits, IntWidth.low, IntWidth.high]
    omega
  have hword : json.word (.int n.toNat) =
      if IntWidth.u64.admits n.toNat then .ok (UInt64.ofNat (n.toNat : Int).toNat)
      else .error (.invalidValue (.int n.toNat) (.int .u64)) := rfl
  rw [hword, if_pos hadmits, Int.toNat_natCast, UInt64.ofNat_toNat]

theorem Format.json_policy (policy : ReloadPolicy) :
    json.policy (.text policy.name) = .ok policy := by
  have hpolicy : json.policy (.text policy.name) = ReloadPolicy.decodeName policy.name := rfl
  rw [hpolicy, ReloadPolicy.decodeName, ReloadPolicy.ofName?_name]

namespace Descriptor

/-- A descriptor as the list of its fields. -/
def toRow (d : Descriptor) : Json :=
  .list [.text d.name, .object d.options]

theorem decode_toJson (d : Descriptor) : decode Format.json d.toJson = .ok d := rfl

theorem decode_toRow (d : Descriptor) : decode Format.json d.toRow = .ok d := rfl

theorem decodeList_of_decode {write : Descriptor → Json}
    (h : ∀ d, decode Format.json (write d) = .ok d) (ds : List Descriptor) :
    decodeList Format.json (.list (ds.map write)) = .ok ds := by
  have hlist : decodeList Format.json (.list (ds.map write)) =
      (ds.map write).mapM (decode Format.json) := rfl
  rw [hlist]
  induction ds with
  | nil => rfl
  | cons d ds ih =>
    rw [List.map_cons, List.mapM_cons, h d, ih rfl]
    rfl

theorem decodeList_listToJson (ds : List Descriptor) :
    decodeList Format.json (listToJson ds) = .ok ds :=
  decodeList_of_decode decode_toJson ds

end Descriptor

namespace ReloadConfig

/-- The settings as a list. -/
def toRow (config : ReloadConfig) : Json :=
  .list [.text config.policy.name, .bool config.watch, .int config.pollInterval.toNat]

theorem set_written (b config : ReloadConfig) :
    set Format.json b "policy" (.text config.policy.name) = .ok { b with policy := config.policy } ∧
      set Format.json b "watch" (.bool config.watch) = .ok { b with watch := config.watch } ∧
      set Format.json b "poll_interval_secs" (.int config.pollInterval.toNat) =
        .ok { b with pollInterval := config.pollInterval } := by
  refine ⟨?_, rfl, ?_⟩
  · have hset : set Format.json b "policy" (.text config.policy.name) =
        (Format.json.policy (.text config.policy.name)).map fun policy => { b with policy } := rfl
    rw [hset, Format.json_policy]
    rfl
  · have hset : set Format.json b "poll_interval_secs" (.int config.pollInterval.toNat) =
        (Format.json.word (.int config.pollInterval.toNat)).map fun pollInterval =>
          { b with pollInterval } := rfl
    rw [hset, Format.json_word]
    rfl

theorem decode_toJson (config : ReloadConfig) : decode Format.json config.toJson = .ok config := by
  rw [decode, toJson, Format.json_record_object]
  simp [(set_written _ config).1, (set_written _ config).2.1, (set_written _ config).2.2, bind,
    Except.bind, pure, Except.pure]

theorem decode_toRow (config : ReloadConfig) : decode Format.json config.toRow = .ok config := by
  rw [decode, toRow, Format.json_record_list _ _ _ _ _ (by simp [fieldNames])]
  simp [fieldNames, (set_written _ config).1, (set_written _ config).2.1,
    (set_written _ config).2.2, bind, Except.bind, pure, Except.pure]

end ReloadConfig

namespace ObservabilityConfig

/-- The settings as a list. -/
def toRow (config : ObservabilityConfig) : Json :=
  .list [.text config.logLevel]

theorem decode_toJson (config : ObservabilityConfig) :
    decode Format.json config.toJson = .ok config := rfl

theorem decode_toRow (config : ObservabilityConfig) :
    decode Format.json config.toRow = .ok config := rfl

end ObservabilityConfig

namespace GatewayConfig

/-- A configuration in which each record is the list of its fields. -/
def toRow (config : GatewayConfig) : Json :=
  .list [.list (config.filters.map Descriptor.toRow), config.reload.toRow,
    config.observability.toRow]

/-- The written form of the configuration that a value stands for. -/
def normalize (value : Json) : Except DecodeError Json :=
  (decode Format.json value).map toJson

theorem set_of_decode {filters reload observability : Json} {config : GatewayConfig}
    (hfilters : Descriptor.decodeList Format.json filters = .ok config.filters)
    (hreload : ReloadConfig.decode Format.json reload = .ok config.reload)
    (hobservability :
      ObservabilityConfig.decode Format.json observability = .ok config.observability)
    (b : GatewayConfig) :
    set Format.json b "filters" filters = .ok { b with filters := config.filters } ∧
      set Format.json b "reload" reload = .ok { b with reload := config.reload } ∧
      set Format.json b "observability" observability =
        .ok { b with observability := config.observability } := by
  refine ⟨?_, ?_, ?_⟩
  · have hset : set Format.json b "filters" filters =
        (Descriptor.decodeList Format.json filters).map fun filters => { b with filters } := rfl
    rw [hset, hfilters]
    rfl
  · have hset : set Format.json b "reload" reload =
        (ReloadConfig.decode Format.json reload).map fun reload => { b with reload } := rfl
    rw [hset, hreload]
    rfl
  · have hset : set Format.json b "observability" observability =
        (ObservabilityConfig.decode Format.json observability).map fun observability =>
          { b with observability } := rfl
    rw [hset, hobservability]
    rfl

theorem decode_toJson (config : GatewayConfig) : decode Format.json config.toJson = .ok config := by
  have hset := set_of_decode (Descriptor.decodeList_listToJson config.filters)
    config.reload.decode_toJson config.observability.decode_toJson
  rw [decode, toJson, Format.json_record_object]
  simp [(hset _).1, (hset _).2.1, (hset _).2.2, bind, Except.bind, pure, Except.pure]

theorem decode_toRow (config : GatewayConfig) : decode Format.json config.toRow = .ok config := by
  have hset := set_of_decode
    (Descriptor.decodeList_of_decode Descriptor.decode_toRow config.filters)
    config.reload.decode_toRow config.observability.decode_toRow
  rw [decode, toRow, Format.json_record_list _ _ _ _ _ (by simp [fieldNames])]
  simp [fieldNames, (hset _).1, (hset _).2.1, (hset _).2.2, bind, Except.bind, pure, Except.pure]

/-- A configuration is read from its written form, and from the list of its fields, as it was, and
so are its descriptors in their order. Whatever a value looks like, the written form of what it is
read as is read in the same way, and is its own written form; a value that is not read stays so.
Written forms are JSON values here, not their text: what printing and reading a text does to a
number is not part of it. -/
theorem decode_writtenForm (config : GatewayConfig) (value : Json) :
    decode Format.json config.toJson = .ok config ∧
      decode Format.json config.toRow = .ok config ∧
      Descriptor.decodeList Format.json (Descriptor.listToJson config.filters) =
        .ok config.filters ∧
      (normalize value).bind (decode Format.json) = decode Format.json value ∧
      (normalize value).bind normalize = normalize value := by
  refine ⟨decode_toJson config, decode_toRow config,
    Descriptor.decodeList_listToJson config.filters, ?_, ?_⟩
  · rw [normalize]
    rcases decode Format.json value with e | read
    · rfl
    · exact decode_toJson read
  · have hread : ∀ read, normalize (toJson read) = .ok read.toJson := by
      intro read
      rw [normalize, decode_toJson]
      rfl
    rw [normalize]
    rcases decode Format.json value with e | read
    · rfl
    · exact hread read

/-- Sections by name and by position, a key without a meaning, and settings that are left out. -/
example : (normalize (.object [("filters", .list [.list [.text "limit"]]), ("owner", .null),
      ("reload", .list [.text "skip"])])).map (Json.same · (toJson
      { filters := [⟨"limit", []⟩], reload := { policy := .skip } })) = .ok true := by
  rfl

end GatewayConfig

end FilterGateway
