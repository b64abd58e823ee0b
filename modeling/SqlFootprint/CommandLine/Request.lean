import SqlFootprint.CommandLine.Arguments

/-!
# Requests

What a command line asks for: an analysis, a schema, the capabilities, or words on how to use the
program.
-/

namespace SqlFootprint.CommandLine

/-- What is to be analyzed and where the report goes. -/
structure AnalyzeOptions where
  /-- Files and directories. -/
  paths : List String := []
  /-- A text that is given on the command line. -/
  sql : Option String := none
  /-- The file of definitions by which columns are judged. -/
  schema : Option String := none
  output : Option String := none
  summary : Bool := false
deriving Repr

inductive Command where
  | analyze (options : AnalyzeOptions)
  | schema (path : String)
  | capabilities
deriving Repr

/-- What help is asked on. -/
inductive Topic where
  | program
  | analyze
  | schema
  | capabilities
  | help
deriving DecidableEq, Repr

inductive Request where
  | help (topic : Topic)
  | version
  | run (config : Option String) (verbose : Bool) (command : Command)
deriving Repr

namespace Topic

def name : Topic → String
  | program => "sqlfacts"
  | analyze => "analyze"
  | schema => "schema"
  | capabilities => "capabilities"
  | help => "help"

/-- The topics that are commands. -/
def commands : List Topic := [analyze, schema, capabilities, help]

def ofName? (name : String) : Option Topic :=
  commands.find? (·.name == name)

def form : Topic → CommandForm
  | program => ⟨[.config, .verbose, .help, .version], none, true⟩
  | analyze =>
    ⟨[.config, .sql, .schema, .verbose, .output, .summary, .help], none, false⟩
  | schema => ⟨[.config, .verbose, .help], some 1, false⟩
  | capabilities => ⟨[.config, .verbose, .help], some 0, false⟩
  | help => ⟨[], none, false⟩

def about : Topic → String
  | program => "sqlfacts - structural fact extraction and schema validation for SQL"
  | analyze => "Extract Query Facts from SQL files, directories or inline SQL"
  | schema => "Print the Schema Model built from a DDL file"
  | capabilities => "Print the SQL grammar subset the parser supports"
  | help => "Print this message or the help of the given subcommand(s)"

def usage : Topic → String
  | program => "sqlfacts [OPTIONS] <COMMAND>"
  | analyze => "sqlfacts analyze [OPTIONS] [PATHS]..."
  | schema => "sqlfacts schema [OPTIONS] <DDL>"
  | capabilities => "sqlfacts capabilities [OPTIONS]"
  | help => "sqlfacts help [COMMAND]..."

/-- The operands with a line on each. -/
def operands : Topic → List (String × String)
  | analyze => [("[PATHS]...", "SQL files or directories (searched recursively for *.sql)")]
  | schema => [("<DDL>", "DDL file with CREATE TABLE statements")]
  | help => [("[COMMAND]...", "Print help for the subcommand(s)")]
  | program | capabilities => []

end Topic

/-! ## Help -/

/-- An option as help shows it. -/
def OptionForm.render (o : OptionForm) : String :=
  let dash := match o.short with
    | some c => "-" ++ String.singleton c ++ ", "
    | none => "    "
  let value := if o.value == .none then "" else
    " <" ++ String.ofList (o.long.toList.map Char.toUpper) ++ ">"
  dash ++ "--" ++ o.long ++ value

/-- A headed list in two columns, after an empty line. -/
def section_ (heading : String) (rows : List (String × String)) : String :=
  let width := rows.foldl (fun width row ↦ max width row.1.length) 0
  if rows.isEmpty then "" else
    "\n" ++ heading ++ ":\n" ++ String.join (rows.map fun row ↦
      "  " ++ row.1 ++ String.ofList (List.replicate (width + 2 - row.1.length) ' ') ++
        row.2 ++ "\n")

/-- The help on a topic. -/
def Topic.render (t : Topic) : String :=
  let commands := if t == .program then Topic.commands.map fun c ↦ (c.name, c.about) else []
  t.about ++ "\n\nUsage: " ++ t.usage ++ "\n" ++ section_ "Commands" commands ++
    section_ "Arguments" t.operands ++
    section_ "Options" (t.form.options.map fun o ↦ (o.render, o.about))

def versionText : String := "sqlfacts 0.1.0\n"

/-! ## Reading -/

/-- What a halt asks for, if it is no fault. -/
def Halt.request? (topic : Topic) : Halt → Option Request
  | .fault => none
  | .help => some (.help topic)
  | .version => some .version

/-- The command that a topic's arguments make. -/
def Command.ofGiven? (topic : Topic) (g : Given) : Option Command :=
  match topic, g.operands with
  | .analyze, paths =>
    some (.analyze ⟨paths, g.value? .sql, g.value? .schema, g.value? .output, g.has .summary⟩)
  | .schema, [path] => some (.schema path)
  | .capabilities, [] => some .capabilities
  | _, _ => none

namespace Request

/-- A command with its arguments, after the program's own options. -/
def ofCommand? (outer : Given) (topic : Topic) (arguments : List String) : Option Request :=
  match topic.form.read {} arguments with
  | .error halt => halt.request? topic
  | .ok g => do
    let command ← Command.ofGiven? topic g
    return .run ((g.value? .config).or (outer.value? .config))
      (g.has .verbose || outer.has .verbose) command

/-- A request for help on the program or on one of its commands. -/
def ofHelp? : List String → Option Request
  | [] => some (.help .program)
  | [name] => (Topic.ofName? name).map .help
  | _ => none

/-- Reads a command line. One that is at fault asks for nothing. -/
def ofArguments? (arguments : List String) : Option Request :=
  match Topic.program.form.read {} arguments with
  | .error halt => halt.request? .program
  | .ok g => do
    let (name, arguments) ← g.command
    match ← Topic.ofName? name with
    | .help => ofHelp? arguments
    | topic => ofCommand? g topic arguments

end Request

end SqlFootprint.CommandLine
