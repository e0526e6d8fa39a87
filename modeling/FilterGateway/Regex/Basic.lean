import FilterGateway.Regex.CharSet

/-!
# Regular expressions

An expression is read into its structure, as far as that decides whether it is supported: how often
a part is repeated and where an anchor holds is left out.

An expression is supported when it is not nested too deep, each name of a group is given once, and
all of its parts are supported in the mode that holds where they stand. A change of flags lasts to
the end of the group that it is in.
-/

namespace FilterGateway

inductive Regex where
  | empty
  | atom (a : Regex.Atom)
  | set (s : Regex.CharSet)
  | flags (change : Regex.FlagChange)
  | repetition (part : Regex)
  | group (name? : Option String) (change : Regex.FlagChange) (inside : Regex)
  | sequence (parts : List Regex)
  | alternatives (branches : List Regex)
deriving Inhabited

namespace Regex

/-- The expression that fits the parts one after the other. -/
def ofParts : List Regex → Regex
  | [] => .empty
  | [part] => part
  | parts => .sequence parts

/-- The expression that fits what one of the branches fits. -/
def ofBranches : List Regex → Regex
  | [branch] => branch
  | branches => .alternatives branches

/-- Whether an expression may be repeated. -/
def isRepeatable : Regex → Bool
  | .empty | .flags _ => false
  | _ => true

mutual

/-- How deep parts are nested. -/
def depth : Regex → Nat
  | .empty | .atom _ | .flags _ => 0
  | .set s => s.depth
  | .repetition part => part.depth + 1
  | .group _ _ inside => inside.depth + 1
  | .sequence parts => depthOfParts parts + 1
  | .alternatives branches => depthOfParts branches + 1

def depthOfParts : List Regex → Nat
  | [] => 0
  | part :: rest => max part.depth (depthOfParts rest)

end

mutual

/-- The names of the groups, from left to right. -/
def groupNames : Regex → List String
  | .empty | .atom _ | .set _ | .flags _ => []
  | .repetition part => part.groupNames
  | .group name? _ inside => name?.toList ++ inside.groupNames
  | .sequence parts => groupNamesOfParts parts
  | .alternatives branches => groupNamesOfParts branches

def groupNamesOfParts : List Regex → List String
  | [] => []
  | part :: rest => part.groupNames ++ groupNamesOfParts rest

end

mutual

/-- The mode after an expression that starts in a mode; there is none when one of its parts is not
supported. -/
def modeAfter? (mode : Mode) : Regex → Option Mode
  | .empty => some mode
  | .atom a => if a.isSupported mode then some mode else none
  | .set s => if s.isSupported mode then some mode else none
  | .flags change => some (mode.change change)
  | .repetition part => part.modeAfter? mode
  | .group _ change inside => (inside.modeAfter? (mode.change change)).map fun _ => mode
  | .sequence parts => modeAfterParts? mode parts
  | .alternatives branches => modeAfterParts? mode branches

def modeAfterParts? (mode : Mode) : List Regex → Option Mode
  | [] => some mode
  | part :: rest =>
    match part.modeAfter? mode with
    | some mode => modeAfterParts? mode rest
    | none => none

end

/-- The greatest depth of an expression. -/
def depthLimit : Nat := 250

def isSupported (r : Regex) : Bool :=
  r.depth ≤ depthLimit && r.groupNames.Nodup && (r.modeAfter? {}).isSome

end Regex

end FilterGateway
