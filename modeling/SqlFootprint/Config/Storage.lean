import SqlFootprint.CommandLine.Files
import SqlFootprint.Config.File

/-!
# Loading and saving configurations

Both ways between a configuration and a file that keeps it.
-/

namespace SqlFootprint

open CommandLine (FileError FileTree)

/-- Why a configuration is not loaded or saved. -/
inductive StorageFault where
  | io (error : FileError)
  /-- The text of the file is none of a configuration. -/
  | malformed
  /-- A number of the configuration is too large for a file. -/
  | notStorable
deriving DecidableEq, Repr

/-- A program that reads and writes files and may fail. -/
abbrev Storage := ExceptT StorageFault (StateM FileTree)

namespace Config

/-- Reads the configuration in a file. -/
def load (path : String) : Storage Config := do
  match (← get).view.readText path with
  | .error e => throw (.io e)
  | .ok text =>
    match ofText? text with
    | some c => return c
    | none => throw .malformed

/-- Writes a configuration to a file. -/
def save (c : Config) (path : String) : Storage Unit := do
  match c.toText? with
  | none => throw .notStorable
  | some text =>
    match (← get).writeFault? path with
    | some e => throw (.io e)
    | none => modify (·.write path text)

end Config

end SqlFootprint
