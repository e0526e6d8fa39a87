/-!
# Command-line arguments

An option with the path of the configuration file may come first, then one command, and nothing
after it. The path may be written as an argument of its own or together with its option.
-/

namespace FilterGateway.Cli

inductive Command where
  | check
  | display
  | watch
deriving DecidableEq, Repr

/-- What the arguments ask for. -/
inductive Request where
  | run (path : String) (command : Command)
  | help
deriving DecidableEq, Repr

/-- The path of the configuration file when no other is given. -/
def defaultPath : String :=
  "filters.toml"

def Command.ofName? : String → Option Command
  | "check" => some .check
  | "show" => some .display
  | "watch" => some .watch
  | _ => none

/-- Whether an argument could stand for options. -/
def looksLikeOption (arg : String) : Bool :=
  arg.startsWith "-" && arg != "-"

/-- What follows a command: a lone mark for the end of options, or a call for help. -/
def afterCommand (request : Request) : List String → Option Request
  | [] | ["--"] => some request
  | arg :: _ => if arg = "--help" ∨ arg.startsWith "-h" then some .help else none

/-- What follows the command for help: at most the name of one command. -/
def afterHelp : List String → Option Request
  | [] => some .help
  | [name] => if name = "help" ∨ (Command.ofName? name).isSome then some .help else none
  | _ => none

/-- The path that is written together with its option, if the argument is of that form. -/
def joinedPath? (arg : String) : Option String :=
  let cs := arg.toList
  if arg.startsWith "--config=" then some (String.ofList (cs.drop 9))
  else if arg.startsWith "-c=" then some (String.ofList (cs.drop 3))
  else if arg.startsWith "-c" && 2 < cs.length then some (String.ofList (cs.drop 2))
  else none

/-- A path that was given once, and by a text that is not empty. -/
def givenPath (path? : Option String) (path : String) : Option (Option String) :=
  if path?.isSome ∨ path = "" then none else some (some path)

/-- What the arguments ask for, given the path that was read so far; nothing when they are wrong. -/
def readFrom (path? : Option String) : List String → Option Request
  | [] => none
  | arg :: rest =>
    if arg = "--config" ∨ arg = "-c" then
      match rest with
      | value :: rest =>
        if looksLikeOption value then none
        else
          match givenPath path? value with
          | some path? => readFrom path? rest
          | none => none
      | [] => none
    else
      match joinedPath? arg with
      | some value =>
        match givenPath path? value with
        | some path? => readFrom path? rest
        | none => none
      | none =>
        if arg = "--help" ∨ arg.startsWith "-h" then some .help
        else if arg = "help" then afterHelp rest
        else
          match Command.ofName? arg with
          | some command => afterCommand (.run (path?.getD defaultPath) command) rest
          | none => none

/-- What the arguments ask for; nothing when they are wrong. -/
def read? (args : List String) : Option Request :=
  readFrom none args

end FilterGateway.Cli
