import FilterGateway.Config.Load
import FilterGateway.Table

/-!
# Finding files

A path is followed one name at a time, from the working directory or, when it starts with a slash,
from the root. Each step needs a directory to start from, also one to the same or to the next higher
directory, and ends the walk when nothing has the name.
-/

namespace FilterGateway

/-- A directory that holds files and nothing else. -/
abbrev Directory := Table FileState

/-- Where a walk along a path may stand. Of a directory that is not the working directory only its
place is known, or its name in a directory that is known. -/
inductive Location where
  | working
  | above
  | root
  | inside (parent : Location) (name : String)
  | file (content : ByteArray)

namespace Location

/-- The directories that every root directory holds. -/
def rootNames : List String :=
  ["bin", "boot", "dev", "etc", "home", "lib", "media", "mnt", "opt", "proc", "root", "run", "sbin",
    "srv", "sys", "tmp", "usr", "var"]

/-- The most bytes that the name of a file may have. -/
def longestName : Nat := 255

/-- The most bytes that a path may have. -/
def longestPath : Nat := 4095

/-- What a directory holds under a name. -/
def enter (d : Directory) (place : Location) (name : String) : Except FileState Location :=
  match place with
  | working =>
    match d.get? name with
    | some (.bytes content) => .ok (file content)
    | some .directory => .ok (inside working name)
    | some state => .error state
    | none => .error .missing
  | root => if rootNames.contains name then .ok (inside root name) else .error .missing
  | inside root "dev" => if name = "null" then .ok (file .empty) else .error .missing
  | above | inside _ _ => .error .missing
  | file _ => .error .belowFile

/-- The next higher directory; that of the root is the root. -/
def parent : Location → Location
  | working | above => above
  | root => root
  | inside parent _ => parent
  | file content => file content

/-- One step along a path. A point and an empty name lead nowhere else. -/
def step (d : Directory) (place : Location) (name : String) : Except FileState Location :=
  match place with
  | file _ => .error .belowFile
  | _ =>
    if name = "" ∨ name = "." then .ok place
    else if name = ".." then .ok place.parent
    else if longestName < name.utf8ByteSize then .error .nameTooLong
    else place.enter d name

/-- What is found at the end of a walk. -/
def state : Location → FileState
  | file content => .bytes content
  | _ => .directory

end Location

/-- What a path leads to from inside a directory. -/
def Directory.find (d : Directory) (path : String) : FileState :=
  if path = "" then .missing
  else if Location.longestPath < path.utf8ByteSize then .nameTooLong
  else
    let start : Location := if path.startsWith "/" then .root else .working
    match (path.splitOn "/").foldlM (Location.step d) start with
    | .ok place => place.state
    | .error state => state

end FilterGateway
