import FilterGateway.Config.Basic
import FilterGateway.Text.Blank

/-!
# Errors of filters

A descriptor becomes a filter in four stages: its plugin is looked up, makes an instance, has the
options bound onto the configuration of the instance, and initializes it. Each stage has its own
error, and the kind of an error names the stage.
-/

namespace FilterGateway

/-- The stages at which a descriptor can fail. -/
inductive FailureKind where
  | pluginNotFound
  | instantiation
  | configBind
  | init
deriving DecidableEq, Repr

namespace FailureKind

def all : List FailureKind :=
  [pluginNotFound, instantiation, configBind, init]

def label : FailureKind → String
  | pluginNotFound => "plugin_not_found"
  | instantiation => "instantiation"
  | configBind => "config_bind"
  | init => "init"

end FailureKind

/-- Why there is no filter called `name`; a source is what the plugin's own code reported. -/
inductive FilterError where
  | pluginNotFound (name : String)
  | instantiation (name source : String)
  | configBind (name source : String)
  | init (name source : String)
deriving DecidableEq, Repr

namespace FilterError

def kind : FilterError → FailureKind
  | pluginNotFound _ => .pluginNotFound
  | instantiation _ _ => .instantiation
  | configBind _ _ => .configBind
  | init _ _ => .init

def filterName : FilterError → String
  | pluginNotFound name | instantiation name _ | configBind name _ | init name _ => name

def source? : FilterError → Option String
  | pluginNotFound _ => none
  | instantiation _ source | configBind _ source | init _ source => some source

def message : FilterError → String
  | pluginNotFound name => "filter plugin not found: " ++ name
  | instantiation name source => "plugin " ++ name ++ " failed to create a filter: " ++ source
  | configBind name source => "invalid configuration for filter " ++ name ++ ": " ++ source
  | init name source => "filter " ++ name ++ " failed to initialize: " ++ source

end FilterError

/-- A descriptor that failed, by its position in the list of descriptors. -/
structure FilterFailure where
  index : Nat
  error : FilterError
deriving DecidableEq, Repr

def FilterFailure.message (failure : FilterFailure) : String :=
  "filter #" ++ toString failure.index ++ ": " ++ failure.error.message

/-- Why a plugin is not registered. -/
inductive RegistryError where
  | emptyName
  | duplicate (name : String)
deriving DecidableEq, Repr

def RegistryError.message : RegistryError → String
  | emptyName => "filter plugin name must not be empty"
  | duplicate name => "filter plugin already registered: " ++ name

/-- A load that published nothing: of `total` descriptors those in `failures` failed. -/
structure LoadError where
  total : Nat
  failures : List FilterFailure
deriving DecidableEq, Repr

def LoadError.message (e : LoadError) : String :=
  "reload rejected: " ++ toString e.failures.length ++ " of " ++ toString e.total ++
    " filters failed to build"

end FilterGateway
