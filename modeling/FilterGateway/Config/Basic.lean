import FilterGateway.Json.Basic

/-!
# Configuration of a gateway

A configuration lists the filters of the chain by name and options and holds the settings for
reloading and for the log. Options stay untyped: each filter binds its own.
-/

namespace FilterGateway

/-- One filter to build: the name of its plugin and the options bound onto its configuration. -/
structure Descriptor where
  name : String
  options : Fields := []
deriving Inhabited

/-- What a reload does when some filters fail to build: keep the chain in force, or publish the
filters that were built. -/
inductive ReloadPolicy where
  | reject
  | skip
deriving DecidableEq, Repr, Inhabited

structure ReloadConfig where
  policy : ReloadPolicy := .reject
  watch : Bool := true
  pollInterval : UInt64 := 2
deriving DecidableEq, Repr, Inhabited

structure ObservabilityConfig where
  logLevel : String := "info"
deriving DecidableEq, Repr, Inhabited

structure GatewayConfig where
  filters : List Descriptor := []
  reload : ReloadConfig := {}
  observability : ObservabilityConfig := {}
deriving Inhabited

namespace Descriptor

/-- The descriptor with one option set. -/
def withOption (d : Descriptor) (key : String) (value : Json) : Descriptor :=
  { d with options := d.options.insert key value }

/-- Whether two descriptors are equal, with doubles compared as numbers. -/
def same (a b : Descriptor) : Bool :=
  a.name == b.name && Json.sameFields a.options b.options

end Descriptor

namespace ReloadPolicy

/-- The name of a policy in a configuration. -/
def name : ReloadPolicy → String
  | reject => "reject"
  | skip => "skip"

/-- The name of a policy in messages. -/
def label : ReloadPolicy → String
  | reject => "Reject"
  | skip => "Skip"

def all : List ReloadPolicy :=
  [reject, skip]

def ofName? (name : String) : Option ReloadPolicy :=
  all.find? fun policy => policy.name == name

theorem ofName?_name (policy : ReloadPolicy) : ofName? policy.name = some policy := by
  cases policy <;> decide

end ReloadPolicy

/-! ### The written form -/

def Descriptor.toJson (d : Descriptor) : Json :=
  .object [("name", .text d.name), ("options", .object d.options)]

def ReloadConfig.toJson (config : ReloadConfig) : Json :=
  .object [("policy", .text config.policy.name),
    ("poll_interval_secs", .int config.pollInterval.toNat), ("watch", .bool config.watch)]

def ObservabilityConfig.toJson (config : ObservabilityConfig) : Json :=
  .object [("log_level", .text config.logLevel)]

/-- The descriptors as a list. -/
def Descriptor.listToJson (ds : List Descriptor) : Json :=
  .list (ds.map toJson)

def GatewayConfig.toJson (config : GatewayConfig) : Json :=
  .object [("filters", Descriptor.listToJson config.filters),
    ("observability", config.observability.toJson), ("reload", config.reload.toJson)]

end FilterGateway
