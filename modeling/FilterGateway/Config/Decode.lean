import FilterGateway.Config.Format

/-!
# Reading configurations

Every setting but the name of a filter has a default. A record is given by a table, whose unknown
keys are ignored, or by the list of its first fields. Fields are read in the order in which they are
given, and the first one that does not fit is reported.
-/

namespace FilterGateway

/-- A record as it is given: its named fields and, when it is given as a list, the length of that
list. -/
structure Given (α : Type) where
  fields : List (String × α)
  length? : Option Nat

namespace Format

variable {α : Type} (f : Format α)

def text (value : α) : Except DecodeError String :=
  match f.layer value with
  | .scalar (.text s) => .ok s
  | layer => .error (.invalidType layer.found .text)

def bool (value : α) : Except DecodeError Bool :=
  match f.layer value with
  | .scalar (.bool b) => .ok b
  | layer => .error (.invalidType layer.found .bool)

def word (value : α) : Except DecodeError UInt64 :=
  match f.layer value with
  | .scalar (.int n) =>
    if IntWidth.u64.admits n then .ok (UInt64.ofNat n.toNat)
    else .error (.invalidValue (.int n) (.int .u64))
  | layer => .error (.invalidType layer.found (.int .u64))

/-- The JSON form of a table, whatever it holds. -/
def options (value : α) : Except DecodeError Fields :=
  match f.layer value, f.toJson value with
  | .table _, .object fields => .ok fields
  | layer, _ => .error (.invalidType layer.found .map)

/-- The fields of a record with these names. -/
def given (title : String) (names : List String) (value : α) : Except DecodeError (Given α) :=
  match f.layer value with
  | .table entries => .ok ⟨entries, none⟩
  | .list items => .ok ⟨names.zip items, some items.length⟩
  | .scalar found => .error (.invalidType found (.titled title))

/-- Refuses a list with more items than the record has fields, where the format does. -/
def noSurplus (names : List String) (given : Given α) : Except DecodeError Unit :=
  match given.length? with
  | some length =>
    if f.refusesSurplus && names.length < length then .error (.invalidLength length .fewer)
    else .ok ()
  | none => .ok ()

/-- A record that starts from its defaults and takes up one field after the other. -/
def record {β : Type} (title : String) (names : List String)
    (set : β → String → α → Except DecodeError β) (start : β) (value : α) :
    Except DecodeError β := do
  let given ← f.given title names value
  let result ← given.fields.foldlM (fun result (key, value) => set result key value) start
  f.noSurplus names given
  pure result

end Format

/-! ### Filters -/

/-- A descriptor whose name may not have been read yet. -/
structure Descriptor.Draft where
  name? : Option String := none
  options : Fields := []

namespace Descriptor

variable {α : Type} (f : Format α)

def title : String := "struct FilterDescriptor"

def fieldNames : List String := ["name", "options"]

def Draft.set (d : Draft) (key : String) (value : α) : Except DecodeError Draft :=
  if key = "name" then (f.text value).map fun name => { d with name? := some name }
  else if key = "options" then (f.options value).map fun options => { d with options }
  else .ok d

/-- What is reported for a descriptor without a name. -/
def nameless (given : Given α) : DecodeError :=
  match given.length? with
  | some length => .invalidLength length (.titled title fieldNames.length)
  | none => .missingField "name"

def decode (value : α) : Except DecodeError Descriptor := do
  let given ← f.given title fieldNames value
  let draft ← given.fields.foldlM (fun draft (key, value) => draft.set f key value) ({} : Draft)
  match draft.name? with
  | none => throw (nameless given)
  | some name =>
    f.noSurplus fieldNames given
    pure ⟨name, draft.options⟩

def decodeList (value : α) : Except DecodeError (List Descriptor) :=
  match f.layer value with
  | .list items => items.mapM (decode f)
  | layer => .error (.invalidType layer.found .sequence)

end Descriptor

/-! ### Sections -/

namespace ReloadConfig

variable {α : Type} (f : Format α)

def fieldNames : List String := ["policy", "watch", "poll_interval_secs"]

def set (config : ReloadConfig) (key : String) (value : α) : Except DecodeError ReloadConfig :=
  if key = "policy" then (f.policy value).map fun policy => { config with policy }
  else if key = "watch" then (f.bool value).map fun watch => { config with watch }
  else if key = "poll_interval_secs" then
    (f.word value).map fun pollInterval => { config with pollInterval }
  else .ok config

def decode (value : α) : Except DecodeError ReloadConfig :=
  f.record "struct ReloadConfig" fieldNames (set f) {} value

end ReloadConfig

namespace ObservabilityConfig

variable {α : Type} (f : Format α)

def fieldNames : List String := ["log_level"]

def set (config : ObservabilityConfig) (key : String) (value : α) :
    Except DecodeError ObservabilityConfig :=
  if key = "log_level" then (f.text value).map fun logLevel => { config with logLevel }
  else .ok config

def decode (value : α) : Except DecodeError ObservabilityConfig :=
  f.record "struct ObservabilityConfig" fieldNames (set f) {} value

end ObservabilityConfig

namespace GatewayConfig

variable {α : Type} (f : Format α)

def fieldNames : List String := ["filters", "reload", "observability"]

def set (config : GatewayConfig) (key : String) (value : α) : Except DecodeError GatewayConfig :=
  if key = "filters" then (Descriptor.decodeList f value).map fun filters => { config with filters }
  else if key = "reload" then (ReloadConfig.decode f value).map fun reload => { config with reload }
  else if key = "observability" then
    (ObservabilityConfig.decode f value).map fun observability => { config with observability }
  else .ok config

def decode (value : α) : Except DecodeError GatewayConfig :=
  f.record "struct GatewayConfig" fieldNames (set f) {} value

end GatewayConfig

end FilterGateway
