/-!
# Lines of a TOML document

Blanks are spaces and tabs. A line ends with a line feed, alone or after a carriage return, or
with the document. A comment may hold tabs and all visible characters.
-/

namespace FilterGateway.Toml

def isBlankChar (c : Char) : Bool :=
  c == ' ' || c == '\t'

def skipBlanks (cs : List Char) : List Char :=
  cs.dropWhile isBlankChar

/-- What follows a line break. -/
def newline? : List Char → Option (List Char)
  | '\n' :: rest => some rest
  | '\r' :: '\n' :: rest => some rest
  | _ => none

/-- A character that needs no escape: a tab or anything but a control character. -/
def isPlain (c : Char) : Bool :=
  c == '\t' || (0x20 ≤ c.toNat && c.toNat != 0x7f)

/-- What follows a comment, if one stands here. -/
def skipComment : List Char → List Char
  | '#' :: rest => rest.dropWhile isPlain
  | cs => cs

/-- What follows the end of a line. -/
def lineEnd? (cs : List Char) : Option (List Char) :=
  match skipComment (skipBlanks cs) with
  | [] => some []
  | cs => newline? cs

/-- What follows blanks, line breaks and comments, as they may stand between the items of a list.
Each comment or break uses up a part of the text, so its length bounds their number. -/
def skipLayout (cs : List Char) : List Char :=
  go (cs.length + 1) cs
where
  go : Nat → List Char → List Char
    | 0, cs => cs
    | fuel + 1, cs =>
      match skipBlanks cs with
      | '#' :: rest => go fuel (rest.dropWhile isPlain)
      | cs =>
        match newline? cs with
        | some rest => go fuel rest
        | none => cs

end FilterGateway.Toml
