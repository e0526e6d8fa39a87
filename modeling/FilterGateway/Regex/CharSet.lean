import FilterGateway.Regex.Atom

/-!
# Sets of characters

A set is written between brackets. It lists characters, ranges, shorthands, sets with a name, and
sets between brackets of their own; `&&`, `--` and `~~` combine what is left of them with what is
right of them. A circumflex at the start negates the set, hyphens after it are characters, and so is
a closing bracket that would leave the set without anything in it.
-/

namespace FilterGateway.Regex

inductive CharSet where
  | empty
  | literal (l : Literal)
  | range (first last : Literal)
  | shorthand (negated : Bool)
  | named (negated : Bool)
  | union (items : List CharSet)
  | combination (left right : CharSet)
  | bracketed (negated : Bool) (inside : CharSet)
deriving Inhabited

namespace CharSet

/-- The set with the listed members. -/
def ofItems : List CharSet → CharSet
  | [] => .empty
  | [item] => item
  | items => .union items

mutual

/-- How deep sets, lists and combinations are nested. -/
def depth : CharSet → Nat
  | .empty | .literal _ | .range _ _ | .shorthand _ | .named _ => 0
  | .union items => depthOfItems items + 1
  | .combination left right => max left.depth right.depth + 1
  | .bracketed _ inside => inside.depth + 1

def depthOfItems : List CharSet → Nat
  | [] => 0
  | item :: rest => max item.depth (depthOfItems rest)

end

mutual

/-- Whether a set is supported. Without the flag `unicode` nothing in it may be negated, since it
would then take in bytes that are no ASCII characters. -/
def isSupported (mode : Mode) : CharSet → Bool
  | .empty => true
  | .literal l => l.isSupportedInSet mode
  | .range first last => first.isSupportedInSet mode && last.isSupportedInSet mode
  | .shorthand negated => !mode.unicode && !negated
  | .named negated => if mode.unicode then !mode.ignoreCase else !negated
  | .union items => areSupported mode items
  | .combination left right => left.isSupported mode && right.isSupported mode
  | .bracketed negated inside => (mode.unicode || !negated) && inside.isSupported mode

def areSupported (mode : Mode) : List CharSet → Bool
  | [] => true
  | item :: rest => item.isSupported mode && areSupported mode rest

end

/-! ### Reading -/

/-- The names of sets of ASCII characters. -/
def names : List String :=
  ["alnum", "alpha", "ascii", "blank", "cntrl", "digit", "graph", "lower", "print", "punct",
    "space", "upper", "word", "xdigit"]

/-- The set with a name whose text follows an opening bracket. -/
def named? : List Char → Option (CharSet × List Char)
  | ':' :: cs =>
    let (negated, cs) :=
      match cs with
      | '^' :: rest => (true, rest)
      | _ => (false, cs)
    let name := cs.takeWhile (· != ':')
    match cs.drop name.length with
    | ':' :: ']' :: rest =>
      if names.contains (String.ofList name) then some (.named negated, rest) else none
    | _ => none
  | _ => none

/-- The atom at the front of a text inside brackets, where only a backslash is special. -/
def atom? (verbose : Bool) : List Char → Option (Atom × List Char)
  | [] => none
  | '\\' :: rest => Atom.escaped? verbose rest
  | c :: rest => some (.literal { char := c }, rest)

/-- The character after a hyphen, as far as it decides whether the hyphen makes a range: spacing is
left out, but of a comment only its sign. -/
def afterHyphen? (verbose : Bool) (cs : List Char) : Option Char :=
  if verbose then
    let next := cs.dropWhile Text.isSpaceChar
    let next :=
      match next with
      | '#' :: comment => comment.dropWhile Text.isSpaceChar
      | _ => next
    next.head?.or cs.head?
  else cs.head?

/-- The range from one atom to another, which must be literals in order. -/
def range? : Atom → Atom → Option CharSet
  | .literal first, .literal last =>
    if first.char ≤ last.char then some (.range first last) else none
  | _, _ => none

/-- The set that an atom makes alone. -/
def single? : Atom → Option CharSet
  | .literal l => some (.literal l)
  | .shorthand negated => some (.shorthand negated)
  | _ => none

/-- The range, or else the single atom, at the front of a text. -/
def item? (verbose : Bool) (cs : List Char) : Option (CharSet × List Char) := do
  let (first, rest) ← atom? verbose cs
  let rest := skip verbose rest
  match rest with
  | '-' :: after =>
    if afterHyphen? verbose after ∈ [some ']', some '-'] then return (← single? first, rest)
    else
      let (last, rest) ← atom? verbose (skip verbose after)
      return (← range? first last, rest)
  | _ => return (← single? first, rest)

/-- What is open inside a pair of brackets: what the last operator has on its left, and the members
since then, the last one first. At the start, hyphens are members. -/
structure Draft where
  atStart : Bool := true
  left? : Option CharSet := none
  items : List CharSet := []

namespace Draft

def push (d : Draft) (item : CharSet) : Draft :=
  { d with atStart := false, items := item :: d.items }

/-- The set made of what has been read. -/
def close (d : Draft) : CharSet :=
  let right := ofItems d.items.reverse
  match d.left? with
  | some left => .combination left right
  | none => right

/-- An operator takes what has been read on its left. -/
def combine (d : Draft) : Draft :=
  { atStart := false, left? := some d.close }

end Draft

/-- The text after the start of a set, and whether it is negated. -/
def opening (verbose : Bool) (cs : List Char) : Bool × List Char :=
  match skip verbose cs with
  | '^' :: rest => (true, rest)
  | rest => (false, rest)

/-- The inside of a set up to its closing bracket, and the text after that. -/
def inside? (fuel : Nat) (verbose : Bool) (d : Draft) (cs : List Char) :
    Option (CharSet × List Char) :=
  match fuel, skip verbose cs with
  | 0, _ | _, [] => none
  | fuel + 1, '-' :: rest =>
    if d.atStart then
      inside? fuel verbose { d with items := .literal { char := '-' } :: d.items } rest
    else if rest.head? = some '-' then inside? fuel verbose d.combine (rest.drop 1)
    else (item? verbose ('-' :: rest)).bind fun (item, rest) =>
      inside? fuel verbose (d.push item) rest
  | fuel + 1, ']' :: rest =>
    if d.atStart && d.items.isEmpty then
      inside? fuel verbose (d.push (.literal { char := ']' })) rest
    else some (d.close, rest)
  | fuel + 1, '&' :: '&' :: rest | fuel + 1, '~' :: '~' :: rest =>
    inside? fuel verbose d.combine rest
  | fuel + 1, '[' :: rest =>
    match named? rest with
    | some (item, rest) => inside? fuel verbose (d.push item) rest
    | none =>
      let (negated, rest) := opening verbose rest
      (inside? fuel verbose {} rest).bind fun (inside, rest) =>
        inside? fuel verbose (d.push (.bracketed negated inside)) rest
  | fuel + 1, cs =>
    (item? verbose cs).bind fun (item, rest) => inside? fuel verbose (d.push item) rest

/-- The set after its opening bracket, and the text after its closing one. -/
def read? (verbose : Bool) (cs : List Char) : Option (CharSet × List Char) :=
  let (negated, rest) := opening verbose cs
  (inside? (cs.length + 1) verbose {} rest).map fun (inside, rest) =>
    (.bracketed negated inside, rest)

end CharSet

end FilterGateway.Regex
