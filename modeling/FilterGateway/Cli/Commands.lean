import FilterGateway.Cli.Arguments
import FilterGateway.Config.Load
import FilterGateway.Json.Printer

/-!
# Commands

`check` validates a configuration file and sums it up, and `show` prints its filters as JSON. Both
end with an error when the file holds no valid configuration.
-/

namespace FilterGateway.Cli

/-- What a command prints, and the code that it ends with. -/
structure Report where
  code : Nat
  output : String := ""
  errors : String := ""
deriving DecidableEq, Repr

/-- The code of a program that ends abnormally. -/
def abnormalCode : Nat := 101

/-- One line for each filter; the first one has the position `index`. -/
def filterLines (index : Nat) : List Descriptor → List String
  | [] => []
  | d :: ds =>
    ("    #" ++ toString index ++ " " ++ d.name ++
      " (" ++ toString d.options.length ++ " options)") :: filterLines (index + 1) ds

/-- What there is to say about a valid configuration. -/
def summary (path : String) (config : GatewayConfig) : List String :=
  [path ++ ": OK",
    "  policy: " ++ config.reload.policy.label ++ ", watch: " ++
      (if config.reload.watch then "true" else "false") ++ ", poll interval: " ++
      toString config.reload.pollInterval.toNat ++ "s",
    "  filters (" ++ toString config.filters.length ++ "):"] ++ filterLines 0 config.filters

def failure (e : ConfigError) : Report where
  code := 1
  errors := "Error: " ++ e.message ++ "\n"

/-- The report of a command that prints lines about a configuration. -/
def describe (lines : GatewayConfig → List String) : Except ConfigError GatewayConfig → Report
  | .ok config => { code := 0, output := String.join ((lines config).map (· ++ "\n")) }
  | .error e => failure e

def check (path : String) (file : FileState) : Report :=
  describe (summary path) (loadConfig file)

def printFilters (file : FileState) : Report :=
  describe (fun config => [(Descriptor.listToJson config.filters).pretty]) (loadConfig file)

/-- The report of arguments that are wrong. -/
def misuse : Report where
  code := 2
  errors := "error: invalid arguments\n\nFor more information, try '--help'.\n"

/-- The report of a call for help. -/
def help : Report where
  code := 0
  output := "Validate and inspect filter chain configuration\n\n" ++
    "Usage: filterctl [OPTIONS] <COMMAND>\n\nCommands:\n" ++
    "  check  Parse and validate the configuration file\n" ++
    "  show   Print the filter descriptors as JSON\n" ++
    "  watch  Re-validate the file every time it changes\n" ++
    "  help   Print this message or the help of the given subcommand(s)\n\nOptions:\n" ++
    "  -c, --config <CONFIG>  [default: filters.toml]\n" ++
    "  -h, --help             Print help\n"

/-- The report of the arguments, when they ask for a command that ends by itself; `find` gives what
stands under a path. -/
def report? (find : String → FileState) (args : List String) : Option Report :=
  match read? args with
  | none => some misuse
  | some .help => some help
  | some (.run path .check) => some (check path (find path))
  | some (.run path .display) => some (printFilters (find path))
  | some (.run _ .watch) => none

end FilterGateway.Cli
