import SqlFootprint.CommandLine.Files
import SqlFootprint.CommandLine.Request
import SqlFootprint.CommandLine.Summary
import SqlFootprint.Config.File
import SqlFootprint.Report.Analysis
import SqlFootprint.Wire.Report

/-!
# Runs

What a request does. A run sees the files that its arguments name, keeps a log, and ends with what
it prints and at most one file that it writes. Whatever fails before that file is written leaves
nothing but the log and a word on the failure. If the writing breaks off, the file holds what got
there.
-/

namespace SqlFootprint.CommandLine

/-- What a run is given apart from its arguments. -/
structure Surroundings where
  files : FileView
  colour : Bool
  timestamp : String

/-- Why a run fails. -/
inductive Failure where
  | config (error : FileError)
  /-- The configuration file is not well formed. -/
  | malformedConfig
  | pathNotFound (path : String)
  | nothingToAnalyze
  | unreadableDefinitions (path : String) (error : FileError)
  | malformedDefinitions (path : String) (error : SourceError)
  | unreadableSource (path : String) (error : FileError)
  | unwritable (error : FileError)

namespace Failure

def message : Failure → String
  | config error => "IO error: " ++ error.render
  | malformedConfig => "Parse error: not a valid configuration"
  | pathNotFound path => "Path not found: " ++ path
  | nothingToAnalyze => "Nothing to analyze: pass SQL files, directories or --sql"
  | unreadableDefinitions path _ => "Failed to read DDL file " ++ path
  | malformedDefinitions path error =>
    let place := match (error.toDiagnostic path).location with
      | some l => " at " ++ l.render
      | none => ""
    "Failed to parse schema" ++ place ++ ": " ++ error.render
  | unreadableSource path _ => "Failed to read SQL file " ++ path
  | unwritable error => error.render

def cause? : Failure → Option FileError
  | unreadableDefinitions _ error | unreadableSource _ error => some error
  | _ => none

def render (f : Failure) : String :=
  "Error: " ++ f.message ++
    (match f.cause? with
    | some e => "\n\nCaused by:\n    " ++ e.render
    | none => "") ++ "\n"

end Failure

/-! ## Ends of runs -/

/-- How a run ends. -/
structure Outcome where
  code : Nat
  stdout : String := ""
  stderr : String := ""
  /-- The file that was written, with its text. -/
  written : Option (String × String) := none
  /-- The file whose writing broke off, with the bytes that got there. -/
  torn : Option (String × ByteArray) := none

namespace Outcome

/-- The end of a run that failed. -/
def ofFailure (log : String) (f : Failure) : Outcome :=
  { code := 1, stderr := log ++ f.render }

/-- The end of a run whose arguments are at fault. -/
def ofUsage : Outcome :=
  { code := 2, stderr := "error: invalid arguments\n\nFor more information, try '--help'.\n" }

end Outcome

/-- A run up to the moment when it writes a file. -/
inductive Step where
  | finished (outcome : Outcome)
  /-- The run writes a file, and its end depends on whether this works. -/
  | writing (path text : String) (next : Option FileError → Outcome)

namespace Step

/-- The end of a run, if a file can be written or not. -/
def finish (fault? : String → Option WriteFault) : Step → Outcome
  | finished outcome => outcome
  | writing path text next =>
    match fault? path with
    | none => next none
    | some fault =>
      { next (some fault.error) with
        torn := fault.written.map fun n ↦ (path, text.toUTF8.extract 0 n) }

end Step

/-- A part of a run, which may fail and keeps a log. -/
abbrev Run := ExceptT Failure (StateM String)

namespace Run

/-- Adds a line to the log of a run that is to say what it does. -/
def log (verbose : Bool) (line : String) : Run Unit :=
  modify fun log ↦ if verbose then log ++ line ++ "\n" else log

/-- The end of a run that starts with an empty log. -/
def step (run : Run Step) : Step :=
  match run.run "" with
  | (.ok s, _) => s
  | (.error f, log) => .finished (.ofFailure log f)

end Run

/-! ## Reading -/

/-- The configuration file that is taken if none is named. -/
def defaultConfigPath : String := "sqlfacts.toml"

def dialectTitle : Sql.Dialect → String
  | .postgres => "Postgres"
  | .ansi => "Ansi"

namespace Surroundings

variable (s : Surroundings)

def configAt (path : String) : Run Config := do
  match s.files.readText path with
  | .error e => throw (.config e)
  | .ok text =>
    match Config.ofText? text with
    | some config => return config
    | none => throw .malformedConfig

/-- The configuration of a run. -/
def config (path : Option String) (verbose : Bool) : Run Config := do
  let config ← match path with
    | some path => s.configAt path
    | none =>
      if s.files.exists_ defaultConfigPath then s.configAt defaultConfigPath
      else do
        Run.log verbose (Style.yellow.paint s.colour "No config file found, using defaults")
        pure {}
  Run.log verbose (Style.cyan.paint s.colour "Using" ++ " dialect: " ++ dialectTitle config.dialect)
  return config

end Surroundings

/-- A file that is to be analyzed. -/
structure SourceFile where
  path : String
  content : Content

/-- Whether a name ends in `.sql`, in any case of its letters. A name that starts with its only
dot has no such end. -/
def isSqlName (name : String) : Bool :=
  let (reversedEnd, rest) := name.toList.reverse.span (· != '.')
  Text.sameName (.ofList reversedEnd.reverse) "sql" && 1 < rest.length

/-- The order of paths: name by name, a directory before what is in it. -/
def pathLE (a b : List String) : Bool :=
  !decide (b < a)

/-- The names and the content of an entry that is a file. -/
def Entry.file? (e : Entry) : Option (List String × Content) :=
  match e.kind with
  | .file content => some (e.names, content)
  | .directory | .link | .special => none

/-- The files below a directory that hold statements, in the order of their paths. Where the walk
could not go on, nothing is said. -/
def sourcesBelow (directory : String) (below : Entries) : List SourceFile :=
  let files := (below.filterMap Except.toOption).filterMap Entry.file?
  let sources := files.filter fun f ↦ isSqlName (f.1.getLastD "")
  (sources.mergeSort fun f g ↦ pathLE f.1 g.1).map fun f ↦ ⟨joinPath directory f.1, f.2⟩

namespace Surroundings

variable (s : Surroundings)

/-- The files that a path stands for. -/
def sourcesAt (path : String) : Except Failure (List SourceFile) :=
  match s.files.look path with
  | .ok (.directory below) => .ok (sourcesBelow path below)
  | .ok (.file content) => .ok [⟨path, content⟩]
  | .ok (.special _) | .error _ => .error (.pathNotFound path)

def sources (paths : List String) : Except Failure (List SourceFile) := do
  return (← paths.mapM s.sourcesAt).flatten

/-- The schema that a file declares. -/
def schemaAt (config : Config) (path : String) : Except Failure Schema :=
  match s.files.readText path with
  | .error e => .error (.unreadableDefinitions path e)
  | .ok text =>
    match Schema.ofText config text with
    | .ok schema => .ok schema
    | .error e => .error (.malformedDefinitions path e)

end Surroundings

/-! ## Commands -/

namespace Surroundings

variable (s : Surroundings)

/-- Adds a file to a report. -/
def addFile (config : Config) (verbose : Bool) (schema : Option Schema) (r : Report)
    (f : SourceFile) : Run Report := do
  Run.log verbose ("  " ++ Style.cyan.paint s.colour "Analyzing" ++ " " ++ f.path ++ "...")
  match f.content.text with
  | .error e => throw (.unreadableSource f.path e)
  | .ok text => return r.addSource config schema f.path text

/-- The report on all that is to be analyzed: first the text on the command line, then the files
in their order. -/
def report (config : Config) (verbose : Bool) (o : AnalyzeOptions) : Run Report := do
  let files ← s.sources o.paths
  if files.isEmpty && o.sql.isNone then throw .nothingToAnalyze
  let schema ← o.schema.mapM (s.schemaAt config ·)
  let mut r := Report.empty s.timestamp
  if let some schema := schema then
    Run.log verbose (Style.cyan.paint s.colour "Loaded schema:" ++ " " ++
      toString schema.count ++ " tables")
    r := r.withSchema schema
  if let some text := o.sql then
    r := r.addSource config schema inlineSource text
  files.foldlM (s.addFile config verbose schema) r

/-- The end of an analysis once its report is where it belongs. -/
def concluded (o : AnalyzeOptions) (log : String) (r : Report) : Outcome where
  code := if r.hasErrors then 1 else 0
  stdout :=
    if o.summary then reportText s.colour r
    else if o.output.isNone then r.toText ++ "\n"
    else ""
  stderr := log
  written := o.output.map fun path ↦ (path, r.toText)

/-- Delivers a report. -/
def deliver (verbose : Bool) (o : AnalyzeOptions) (r : Report) : Run Step := do
  let log ← get
  match o.output with
  | none => return .finished (s.concluded o log r)
  | some path =>
    return .writing path r.toText fun
      | some e => .ofFailure log (.unwritable e)
      | none =>
        let line := if verbose then
          Style.green.paint s.colour "Report saved to:" ++ " " ++ path ++ "\n" else ""
        s.concluded o (log ++ line) r

def command (config : Config) (verbose : Bool) : Command → Run Step
  | .analyze o => do s.deliver verbose o (← s.report config verbose o)
  | .schema path => do
    let schema ← s.schemaAt config path
    return .finished { code := 0, stdout := schema.toJson.pretty ++ "\n", stderr := ← get }
  | .capabilities =>
    return .finished { code := 0, stdout := Capabilities.current.render, stderr := ← get }

/-- Carries out a request. -/
def request : Request → Step
  | .help topic => .finished { code := 0, stdout := topic.render }
  | .version => .finished { code := 0, stdout := versionText }
  | .run path verbose command => Run.step do
    let config ← s.config path verbose
    s.command config verbose command

/-- Carries out a command line. -/
def start (arguments : List String) : Step :=
  match Request.ofArguments? arguments with
  | none => .finished .ofUsage
  | some r => s.request r

/-- The end of a run whose file can be written if nothing is seen that prevents it. -/
def run (arguments : List String) : Outcome :=
  (s.start arguments).finish s.files.writeFault?

end Surroundings

end SqlFootprint.CommandLine
