import SqlFootprint.Toml.Scalar

/-!
# Reading documents

A document is a list of lines: headers, which open a table, and assignments to keys. How a table
came to be decides what may be added to it: a table is opened by a header once, and a table made
by dotted keys grows by dotted keys only.
-/

namespace SqlFootprint.Toml

/-- How a table came to be. -/
inductive Origin where
  /-- A header named a table inside it. -/
  | implicit
  /-- A dotted key named an entry of it. -/
  | dotted
  /-- A header opened it. -/
  | opened
deriving DecidableEq, Repr

/-- An entry of a document that is read. -/
inductive Item where
  | value (v : Toml)
  | table (origin : Origin) (entries : List (String × Item))
  /-- The tables that doubled headers opened under one name. -/
  | tables (items : List (List (String × Item)))

abbrev Entries := List (String × Item)

namespace Entries

/-- Replaces the entry of a key. -/
def set (key : String) (item : Item) (entries : Entries) : Entries :=
  entries.map fun e ↦ if e.1 == key then (key, item) else e

/-- Changes the table that a header's path leads to. Tables on the way are made as needed; of
several tables under one name the last one counts. -/
def underHeader (change : Entries → Option Entries) : List String → Entries → Option Entries
  | [], entries => change entries
  | k :: ks, entries =>
    match entries.lookup k with
    | none => do return entries ++ [(k, .table .implicit (← underHeader change ks []))]
    | some (.table origin inner) => do
      return entries.set k (.table origin (← underHeader change ks inner))
    | some (.tables items) =>
      match items.reverse with
      | [] => none
      | last :: before => do
        return entries.set k (.tables ((← underHeader change ks last) :: before).reverse)
    | some (.value _) => none

/-- Opens a table by a header. -/
def openTable (key : String) (entries : Entries) : Option Entries :=
  match entries.lookup key with
  | none => some (entries ++ [(key, .table .opened [])])
  | some (.table .implicit inner) => some (entries.set key (.table .opened inner))
  | some _ => none

/-- Opens one more table under the name of a doubled header. -/
def openNext (key : String) (entries : Entries) : Option Entries :=
  match entries.lookup key with
  | none => some (entries ++ [(key, .tables [[]])])
  | some (.tables items) => some (entries.set key (.tables (items ++ [[]])))
  | some _ => none

/-- Adds an entry under a dotted key. The last table on the way has to be made by dotted keys,
unless there is none on the way. -/
def assign (key : String) (item : Item) : (mayEnd : Bool) → List String → Entries → Option Entries
  | mayEnd, [], entries =>
    if mayEnd && (entries.lookup key).isNone then some (entries ++ [(key, item)]) else none
  | _, k :: ks, entries =>
    match entries.lookup k with
    | none => do return entries ++ [(k, .table .dotted (← assign key item true ks []))]
    | some (.table .opened _) => none
    | some (.table origin inner) => do
      return entries.set k (.table origin (← assign key item (origin == .dotted) ks inner))
    | some (.tables items) =>
      match items.reverse with
      | [] => none
      | last :: before => do
        return entries.set k (.tables ((← assign key item false ks last) :: before).reverse)
    | some (.value _) => none

end Entries

mutual

def Item.toToml : Item → Toml
  | .value v => v
  | .table _ entries => .table (entriesToToml entries)
  | .tables items => .array (tablesToToml items)

def entriesToToml : List (String × Item) → List (String × Toml)
  | [] => []
  | e :: es => entryToToml e :: entriesToToml es

def entryToToml : String × Item → String × Toml
  | (key, item) => (key, item.toToml)

def tablesToToml : List (List (String × Item)) → List Toml
  | [] => []
  | t :: ts => .table (entriesToToml t) :: tablesToToml ts

end

namespace Read

/-- Splits a path into the tables on the way and the last key. -/
def splitPath (path : List String) : List String × String :=
  (path.dropLast, path.getLastD "")

/-- A value. The count bounds how deep arrays and tables are nested. -/
def value : Nat → Read Toml
  | 0 => scalar
  | n + 1 => do
    match ← next? with
    | some '[' =>
      one '['
      let items ← many do
        spaces
        let v ← value n
        spaces
        let comma ← accept (one ',')
        if comma then return v
        else if (← next?) == some ']' then return v
        else failure
      spaces
      one ']'
      return .array items
    | some '\x7b' =>
      one '\x7b'
      blanks
      if ← accept (one '\x7d') then return .table []
      let entry : Read (List String × Toml) := do
        blanks
        let path ← key
        blanks
        one '='
        blanks
        let v ← value n
        blanks
        return (path, v)
      let first ← entry
      let rest ← many do
        one ','
        entry
      one '\x7d'
      let entries := (first :: rest).foldl (fun (es : Option Entries) (path, v) ↦ do
        let (way, last) := splitPath path
        Entries.assign last (.value v) true way (← es)) (some [])
      match entries with
      | some es => return .table (entriesToToml es)
      | none => failure
    | _ => scalar

/-- A line of a document. -/
inductive Line where
  | header (path : List String)
  | nextHeader (path : List String)
  | assignment (path : List String) (v : Toml)

def headerPath : Read (List String) := do
  blanks
  let path ← key
  blanks
  return path

def line : Read (Option Line) := do
  blanks
  match ← get with
  | [] => failure
  | '[' :: '[' :: _ =>
    text "[["
    let path ← headerPath
    text "]]"
    lineEnd
    return some (.nextHeader path)
  | '[' :: _ =>
    one '['
    let path ← headerPath
    one ']'
    lineEnd
    return some (.header path)
  | c :: _ =>
    if c == '#' || c == '\n' || c == '\r' then
      lineEnd
      return none
    else
      let path ← key
      blanks
      one '='
      blanks
      let v ← value maxNesting
      lineEnd
      return some (.assignment path v)

end Read

/-- A document on its way: its entries and the path of the table that is open. -/
structure Draft where
  entries : Entries := []
  opened : List String := []

namespace Draft

def add (d : Draft) : Read.Line → Option Draft
  | .header path => do
    let (way, last) := Read.splitPath path
    return ⟨← d.entries.underHeader (Entries.openTable last) way, path⟩
  | .nextHeader path => do
    let (way, last) := Read.splitPath path
    return ⟨← d.entries.underHeader (Entries.openNext last) way, path⟩
  | .assignment path v => do
    let (way, last) := Read.splitPath path
    return ⟨← d.entries.underHeader (Entries.assign last (.value v) true way) d.opened, d.opened⟩

end Draft

/-- Reads a document. A byte order mark before it does not count. -/
def parse? (source : String) : Option (List (String × Toml)) := do
  let cs := match source.toList with
    | '\uFEFF' :: rest => rest
    | cs => cs
  let (lines, rest) ← (Read.many Read.line).run cs
  let (_, rest) ← Read.blanks.run rest
  if !rest.isEmpty then none
  else
    let draft ← (lines.filterMap id).foldlM Draft.add {}
    return entriesToToml draft.entries

end SqlFootprint.Toml
