import SqlFootprint.CommandLine.Run
import Std.Time

/-!
# The program

Gathers what a run may look at, starts it, and prints what it says.
-/

namespace SqlFootprint.CommandLine

/-- An error of the system as a run reports it. -/
def FileError.ofSystem : IO.Error → FileError
  | .noFileOrDirectory _ _ _ => .missing
  | .inappropriateType _ code _ => if code == 21 then .isDirectory else .notDirectory
  | e => .other (toString e)

def readContent (path : String) : IO Content := do
  match ← (IO.FS.readBinFile path).toBaseIO with
  | .ok bytes => return .ok bytes
  | .error e => return .error (.ofSystem e)

/-- What a walk comes to at the entries of a directory and below them, behind the names that lead to
the directory. Of the files only those with statements are read; a run has no use for the others. -/
partial def walk (listed : Except IO.Error (Array IO.FS.DirEntry)) (names : List String) :
    IO Entries := do
  match listed with
  | .error e => return [.error (.ofSystem e)]
  | .ok entries =>
    let mut found : Entries := []
    for entry in entries do
      let names := names ++ [entry.fileName]
      match ← entry.path.symlinkMetadata.toBaseIO with
      | .error e => found := found ++ [.error (.ofSystem e)]
      | .ok data =>
        match data.type with
        | .dir =>
          found := found ++ .ok ⟨names, .directory⟩ :: (← walk (← entry.path.readDir.toBaseIO) names)
        | .symlink => found := found ++ [.ok ⟨names, .link⟩]
        | .other => found := found ++ [.ok ⟨names, .special⟩]
        | .file =>
          if isSqlName entry.fileName then
            found := found ++ [.ok ⟨names, .file (← readContent entry.path.toString)⟩]
    return found

/-- What stands at a path. What is no file may have no end, and is read only if it has to be. -/
def observe (readsAll : Bool) (path : String) : IO (Except FileError Node) := do
  match ← (IO.FS.realPath path).toBaseIO with
  | .error e => return .error (.ofSystem e)
  | .ok real =>
    match ← real.metadata.toBaseIO with
    | .error e => return .error (.ofSystem e)
    | .ok found =>
      match found.type with
      | .dir => return .ok (.directory (← walk (← real.readDir.toBaseIO) []))
      | .file => return .ok (.file (← readContent path))
      | .symlink | .other =>
        let content ← if readsAll then readContent path else pure (.error .missing)
        return .ok (.special content)

/-- The paths that a run may look at, and whether it reads what is no file there. Of one path the
first entry counts: a run that would take what is no file for a source of statements ends before it
reads definitions. -/
def Request.paths : Request → List (String × Bool)
  | .help _ | .version => []
  | .run config _ command =>
    (config.getD defaultConfigPath, true) :: match command with
    | .analyze o => o.paths.map (·, false) ++ o.schema.toList.map (·, true)
    | .schema path => [(path, true)]
    | .capabilities => []

def gather (paths : List (String × Bool)) : IO FileView := do
  let nodes ← paths.mapM fun (path, readsAll) ↦ do return (path, ← observe readsAll path)
  return ⟨fun path ↦ (nodes.lookup path).getD (.error .missing), fun _ ↦ none⟩

/-- Whether a variable of the environment is set and not zero. -/
def isSet (name : String) : IO Bool := do
  return (← IO.getEnv name).any (· != "0")

/-- Whether colours are shown. -/
def showsColour : IO Bool := do
  if ← isSet "CLICOLOR_FORCE" then return true
  if (← IO.getEnv "NO_COLOR").isSome then return false
  return (← (← IO.getStdout).isTty) && (← IO.getEnv "CLICOLOR") != some "0"

def tryWrite (path text : String) : IO (Option FileError) := do
  match ← (IO.FS.writeFile path text).toBaseIO with
  | .ok _ => return none
  | .error e => return some (.ofSystem e)

def printOutcome (o : Outcome) : IO UInt32 := do
  IO.eprint o.stderr
  IO.print o.stdout
  return o.code.toUInt32

end SqlFootprint.CommandLine

open SqlFootprint.CommandLine in
def main (arguments : List String) : IO UInt32 := do
  let paths := ((Request.ofArguments? arguments).map Request.paths).getD []
  let now := Std.Time.DateTime.ofTimestamp (← Std.Time.Timestamp.now) Std.Time.TimeZone.ZoneRules.UTC
  let s : Surroundings := ⟨← gather paths, ← showsColour, now.toISO8601String⟩
  match s.start arguments with
  | .finished outcome => printOutcome outcome
  | .writing path text next => printOutcome (next (← tryWrite path text))
