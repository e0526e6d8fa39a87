import FilterGateway.Config.Load

/-!
# Changes of files

A directory is watched for changes. A change has a kind and names the paths that it touches; it
concerns a file when one of these paths ends in the name of that file.
-/

namespace FilterGateway

/-- What kind of change was seen. Some file systems only tell that there was `any` change. -/
inductive ChangeKind where
  | any
  | access
  | create
  | modify
  | remove
  | other
deriving DecidableEq, Repr

structure Change where
  kind : ChangeKind
  paths : List String
deriving DecidableEq, Repr

/-- The parts of a path between its slashes; a point for the directory itself counts only at the
start. -/
def pathParts (path : String) : List String :=
  match (path.splitOn "/").filter (· != "") with
  | [] => []
  | first :: rest => first :: rest.filter (· != ".")

/-- The name of the file that a path leads to. -/
def fileName? (path : String) : Option String :=
  match (pathParts path).getLast? with
  | some name => if name = "." ∨ name = ".." then none else some name
  | none => none

/-- Whether a change may have given the file at `path` a new content. -/
def Change.concerns (change : Change) (path : String) : Bool :=
  (change.kind == .create || change.kind == .modify) &&
    change.paths.any fun p => fileName? p == fileName? path

/-- What someone may do to the file that is watched, or to another file beside it. -/
inductive Edit where
  | write (content : FileState)
  | touch
  | writeOther (name : String)
  | delete
  | makeDirectory

namespace Edit

/-- The change that an edit of the file at `path` shows as. -/
def change (path : String) : Edit → Change
  | write _ => ⟨.create, [path]⟩
  | touch => ⟨.modify, [path]⟩
  | writeOther name => ⟨.create, [name]⟩
  | delete => ⟨.remove, [path]⟩
  | makeDirectory => ⟨.create, [path]⟩

/-- The file after an edit. -/
def apply (file : FileState) : Edit → FileState
  | write content => content
  | touch | writeOther _ => file
  | delete => .missing
  | makeDirectory => .directory

end Edit

end FilterGateway
