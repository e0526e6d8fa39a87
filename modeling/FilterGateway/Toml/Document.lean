import FilterGateway.Toml.Value

/-!
# Definitions in a TOML document

A document defines each table once. Headers may name the parents of a table before or after the
table itself, and a dotted key makes the tables on its way; only further dotted keys may add to
those. `define` enters a value under a dotted key; `openTable` and `closeTable` frame the pairs that
follow a header, and `openItem` and `closeItem` those of one table in a list of tables.
-/

namespace FilterGateway.Toml

/-- How a table came about: by a header of its own, as the parent of another header's table, or on
the way of a dotted key. -/
inductive Origin where
  | header
  | parent
  | dotted
deriving DecidableEq, Repr

/-- What stands under a key while a document is read. Of a list of tables only the last one is
open to definitions, and it stands first. -/
inductive Node where
  | value (v : Value)
  | table (origin : Origin) (entries : List (String × Node))
  | tables (latest : List (String × Node)) (earlier : List (List (String × Node)))
  | noTables
deriving Inhabited

/-- The entries of a table under construction, in the order of the document. -/
abbrev Entries := List (String × Node)

namespace Entries

def get? (key : String) : Entries → Option Node
  | [] => none
  | (k, node) :: rest => if k = key then some node else get? key rest

/-- The entries with `node` under `key`, where it stands or at the end. -/
def put (key : String) (node : Node) : Entries → Entries
  | [] => [(key, node)]
  | (k, old) :: rest => if k = key then (key, node) :: rest else (k, old) :: put key node rest

def erase (key : String) (entries : Entries) : Entries :=
  entries.filter fun entry => entry.1 != key

/-- The entries with `value` under a dotted key. The table that the last part of the key goes into
must have come about by dotted keys, unless the key has only one part; `origin?` says how `entries`
came about below the table that the definition started from. -/
def define (origin? : Option Origin) (value : Value) : List String → Entries → Option Entries
  | [], _ => none
  | [key], entries =>
    if origin?.all (· == .dotted) && (entries.get? key).isNone then
      some (entries.put key (.value value))
    else none
  | key :: path, entries =>
    match entries.get? key with
    | none => (define (some .dotted) value path []).map fun inner =>
        entries.put key (.table .dotted inner)
    | some (.table .header _) => none
    | some (.table origin inner) => (define (some origin) value path inner).map fun inner =>
        entries.put key (.table origin inner)
    | some (.tables latest earlier) => (define (some .header) value path latest).map fun latest =>
        entries.put key (.tables latest earlier)
    | some _ => none

/-- The entries after `change` at the table that the first parts of a header's key name. Tables
that are missing on the way come about as parents. -/
def atParent (change : String → Entries → Option Entries) : List String → Entries → Option Entries
  | [], _ => none
  | [key], entries => change key entries
  | key :: path, entries =>
    match entries.get? key with
    | none => (atParent change path []).map fun inner => entries.put key (.table .parent inner)
    | some (.table origin inner) => (atParent change path inner).map fun inner =>
        entries.put key (.table origin inner)
    | some (.tables latest earlier) => (atParent change path latest).map fun latest =>
        entries.put key (.tables latest earlier)
    | some _ => none

/-- The entries at the table that the first parts of a header's key name. -/
def parentOf? : List String → Entries → Option (String × Entries)
  | [], _ => none
  | [key], entries => some (key, entries)
  | key :: path, entries =>
    match entries.get? key with
    | none => parentOf? path []
    | some (.table _ inner) => parentOf? path inner
    | some (.tables latest _) => parentOf? path latest
    | some _ => none

/-- What a header's table already holds: a table that came about as a parent may still be defined,
and then starts with the tables below it. -/
def opened? (key : String) (entries : Entries) : Option Entries :=
  match entries.get? key with
  | none => some []
  | some (.table .parent inner) => some inner
  | some _ => none

end Entries

/-- A document while its lines are read: the finished tables, and the key and the entries of the
table that pairs go into. -/
structure Draft where
  root : Entries
  path : List String
  isItem : Bool
  current : Entries

namespace Draft

/-- A document before its first line. -/
def start : Draft := ⟨[], [], false, []⟩

/-- The document with the table that pairs go into put in its place. -/
def close? (d : Draft) : Option Entries :=
  match d.path with
  | [] => some d.current
  | path =>
    d.root.atParent (fun key entries =>
      if d.isItem then
        match entries.get? key with
        | some .noTables => some (entries.put key (.tables d.current []))
        | some (.tables latest earlier) =>
          some (entries.put key (.tables d.current (latest :: earlier)))
        | _ => none
      else some (entries.put key (.table .header d.current))) path

/-- The document with `value` under a dotted key of the current table. -/
def define? (d : Draft) (path : List String) (value : Value) : Option Draft :=
  (d.current.define none value path).map fun current => { d with current }

/-- The document after the header of a table. The table leaves its place until it is closed. -/
def openTable? (d : Draft) (path : List String) : Option Draft := do
  let root ← d.close?
  let (key, entries) ← root.parentOf? path
  let current ← entries.opened? key
  let root ← root.atParent (fun key entries => some (entries.erase key)) path
  some ⟨root, path, false, current⟩

/-- The document after the header of one table in a list of tables. -/
def openItem? (d : Draft) (path : List String) : Option Draft := do
  let root ← d.close?
  let root ← root.atParent (fun key entries =>
    match entries.get? key with
    | none => some (entries.put key .noTables)
    | some .noTables => some entries
    | some (.tables latest earlier) => some (entries.put key (.tables latest earlier))
    | some _ => none) path
  some ⟨root, path, true, []⟩

end Draft

mutual

/-- The value that a node holds once the document has been read. -/
def Node.toValue : Node → Value
  | .value v => v
  | .table _ entries => .table (entriesToValues entries)
  | .tables latest earlier => .tables (tablesToValues earlier [entriesToValues latest])
  | .noTables => .tables []

def entriesToValues : List (String × Node) → List (String × Value)
  | [] => []
  | (key, node) :: rest => (key, node.toValue) :: entriesToValues rest

def tablesToValues : List (List (String × Node)) → List (List (String × Value)) →
    List (List (String × Value))
  | [], done => done
  | entries :: earlier, done => tablesToValues earlier (entriesToValues entries :: done)

end

end FilterGateway.Toml
