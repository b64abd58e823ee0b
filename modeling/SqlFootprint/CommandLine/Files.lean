/-!
# Files

What a run can see of the files that its arguments name, and a tree of files in which paths are
looked up.
-/

namespace SqlFootprint.CommandLine

/-- Why a file cannot be read or written. -/
inductive FileError where
  | missing
  | isDirectory
  /-- Something on the way is no directory. -/
  | notDirectory
  /-- The bytes are no text. -/
  | notText
  | other (message : String)
deriving DecidableEq, Repr

namespace FileError

def render : FileError → String
  | missing => "No such file or directory (os error 2)"
  | isDirectory => "Is a directory (os error 21)"
  | notDirectory => "Not a directory (os error 20)"
  | notText => "stream did not contain valid UTF-8"
  | other message => message

end FileError

/-- The bytes of a file, if they can be read. -/
abbrev Content := Except FileError ByteArray

/-- The text that bytes stand for. -/
def Content.text (c : Content) : Except FileError String := do
  match String.fromUTF8? (← c) with
  | some text => .ok text
  | none => .error .notText

/-- What an entry of a directory is. Links are not followed. -/
inductive EntryKind where
  | file (content : Content)
  | directory
  | link
  /-- A device, a pipe or a socket. -/
  | special

/-- Something below a directory, with the names that lead to it. -/
structure Entry where
  names : List String
  kind : EntryKind

/-- What a walk through a directory and all that is below it comes to, in any order: entries, and
errors where it cannot go on. -/
abbrev Entries := List (Except FileError Entry)

/-- What stands at a path, behind all links. -/
inductive Node where
  | file (content : Content)
  | directory (below : Entries)
  /-- What is no file may still be read. -/
  | special (content : Content)

/-- Why a file is not written. -/
structure WriteFault where
  error : FileError
  /-- How many bytes get into the file before the error. If it cannot be opened it stays as it
  was. -/
  written : Option Nat := none

/-- What can be seen of the files, by paths as they are written. -/
structure FileView where
  look : String → Except FileError Node
  /-- Why a file cannot be written, if it cannot. -/
  writeFault? : String → Option WriteFault

namespace FileView

def exists_ (v : FileView) (path : String) : Bool :=
  (v.look path).isOk

/-- The text of a file. -/
def readText (v : FileView) (path : String) : Except FileError String := do
  match ← v.look path with
  | .file content | .special content => content.text
  | .directory _ => .error .isDirectory

end FileView

/-- The path of something below a directory. -/
def joinPath (directory : String) (names : List String) : String :=
  let rest := "/".intercalate names
  if directory.endsWith "/" then directory ++ rest else directory ++ "/" ++ rest

/-! ## Trees -/

/-- Files and directories by the names that lead to them from the working directory. Directories
on the way to a file need no entry. -/
structure FileTree where
  files : List (List String × ByteArray) := []
  directories : List (List String) := []

namespace FileTree

variable (t : FileTree)

def isDirectory (place : List String) : Bool :=
  place.isEmpty || t.directories.any (place.isPrefixOf ·) ||
    t.files.any fun f ↦ place.isPrefixOf f.1 && place != f.1

def file? (place : List String) : Option ByteArray :=
  t.files.lookup place

/-- What keeps a path from going on at a place. -/
def fault? (place : List String) : Option FileError :=
  if t.isDirectory place then none
  else if (t.file? place).isSome then some .notDirectory
  else some .missing

/-- Follows names from a directory. -/
def follow (place : List String) : List String → Except FileError (List String)
  | [] => .ok place
  | name :: names =>
    match t.fault? place with
    | some e => .error e
    | none =>
      match name with
      | "" | "." => follow place names
      | ".." => if place.isEmpty then .error .missing else follow place.dropLast names
      | name => follow (place ++ [name]) names

/-- The names in a path. A path that starts at the root leads out of the tree. -/
def names? (path : String) : Except FileError (List String) :=
  if path.isEmpty || path.startsWith "/" then .error .missing else .ok (path.splitOn "/")

/-- The files below a directory. The directories below it hold nothing else. -/
def below (place : List String) : Entries :=
  t.files.filterMap fun (path, bytes) ↦
    (place.isPrefixOf? path).map fun names ↦ .ok ⟨names, .file (.ok bytes)⟩

def look (path : String) : Except FileError Node := do
  let names ← names? path
  let place ← t.follow [] names
  if t.isDirectory place then return .directory (t.below place)
  match t.file? place with
  | some bytes => return .file (.ok bytes)
  | none => throw .missing

/-- Whether the last of some names can be the name of a file. -/
def canNameFile (name : String) : Bool :=
  !(["", ".", ".."].contains name)

/-- Names without the empty ones that slashes at the end of a path make. -/
def withoutSlashes (names : List String) : List String :=
  (names.reverse.dropWhile String.isEmpty).reverse

/-- The place of a file that is to be written. Only its directory has to be there. -/
def target (path : String) : Except FileError (List String) := do
  let names ← names? path
  let last := names.getLastD ""
  let place ← t.follow [] (withoutSlashes names).dropLast
  match t.fault? place with
  | some e => throw e
  | none =>
    if canNameFile last && !t.isDirectory (place ++ [last]) then return place ++ [last]
    else throw .isDirectory

def writeFault? (path : String) : Option FileError :=
  match t.target path with
  | .error e => some e
  | .ok _ => none

/-- A tree with one more file, or with a new text for a file. -/
def write (path text : String) : FileTree :=
  match t.target path with
  | .error _ => t
  | .ok place => { t with files := (place, text.toUTF8) :: t.files.filter (·.1 != place) }

/-- What a run can see of a tree. Writing in a tree does not break off. -/
def view : FileView :=
  ⟨t.look, fun path ↦ (t.writeFault? path).map ({ error := · })⟩

end FileTree

end SqlFootprint.CommandLine
