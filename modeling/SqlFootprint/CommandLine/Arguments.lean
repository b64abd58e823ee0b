/-!
# Arguments

How the words of a command line are read. A command has options, some of which take a value, and
operands. Options may be clustered behind one dash, and everything after a double dash is an
operand. The first fault ends the reading, and so does a request for help.
-/

namespace SqlFootprint.CommandLine

inductive OptionName where
  | config | verbose | sql | schema | output | summary | help | version
deriving DecidableEq, Repr

/-- What an option takes. -/
inductive OptionValue where
  | none
  | text
  /-- A path, which is never empty. -/
  | path
deriving DecidableEq, Repr

/-- An option as it is written, with a line on what it is for. -/
structure OptionForm where
  name : OptionName
  short : Option Char
  long : String
  value : OptionValue
  about : String
deriving Repr

namespace OptionForm

def config : OptionForm :=
  ⟨.config, some 'c', "config", .path, "Path to config file (default: sqlfacts.toml)"⟩

def verbose : OptionForm :=
  ⟨.verbose, some 'v', "verbose", .none, "Enable verbose output"⟩

def sql : OptionForm :=
  ⟨.sql, none, "sql", .text, "Inline SQL to analyze"⟩

def schema : OptionForm :=
  ⟨.schema, some 's', "schema", .path, "DDL file to validate columns against"⟩

def output : OptionForm :=
  ⟨.output, some 'o', "output", .path, "Write report.json here instead of stdout"⟩

def summary : OptionForm :=
  ⟨.summary, none, "summary", .none, "Print a human-readable summary instead of JSON"⟩

def help : OptionForm :=
  ⟨.help, some 'h', "help", .none, "Print help"⟩

def version : OptionForm :=
  ⟨.version, some 'V', "version", .none, "Print version"⟩

end OptionForm

/-- How a command is called. -/
structure CommandForm where
  options : List OptionForm
  /-- How many operands there may be; none is a word that calls for a further command. -/
  operands : Option Nat
  /-- Whether the first operand ends the reading, because it names a command. -/
  hasCommands : Bool := false

/-- What was given on a command line. -/
structure Given where
  /-- Options with their values. An option without a value has the empty one. -/
  options : List (OptionName × String) := []
  operands : List String := []
  /-- The name of a command with its own arguments. -/
  command : Option (String × List String) := none
deriving Repr

namespace Given

def value? (g : Given) (name : OptionName) : Option String :=
  g.options.lookup name

def has (g : Given) (name : OptionName) : Bool :=
  (g.value? name).isSome

end Given

/-- Why the reading of arguments ends early. -/
inductive Halt where
  | fault
  | help
  | version
deriving DecidableEq, Repr

namespace CommandForm

variable (f : CommandForm)

def short? (c : Char) : Option OptionForm :=
  f.options.find? (·.short == some c)

def long? (name : String) : Option OptionForm :=
  f.options.find? (·.long == name)

/-- Adds an option. It may be given once. -/
def give (g : Given) (o : OptionForm) (value : String) : Except Halt Given :=
  match o.name with
  | .help => .error .help
  | .version => .error .version
  | name =>
    if g.has name || (o.value == .path && value.isEmpty) then .error .fault
    else .ok { g with options := (name, value) :: g.options }

/-- Adds an operand, which is a path. -/
def giveOperand (g : Given) (operand : String) : Except Halt Given :=
  if operand.isEmpty || f.operands.any (· ≤ g.operands.length) then .error .fault
  else .ok { g with operands := g.operands ++ [operand] }

/-- Reads the letters behind a dash. If the last one still needs its value, its form is
returned. -/
def giveCluster (g : Given) : List Char → Except Halt (Given × Option OptionForm)
  | [] => .ok (g, none)
  | c :: cs =>
    match f.short? c with
    | none => .error .fault
    | some o =>
      if o.value == .none then
        match give g o "" with
        | .ok g => giveCluster g cs
        | .error h => .error h
      else
        match cs with
        | [] => .ok (g, some o)
        | '=' :: value => do return (← give g o (.ofList value), none)
        | value => do return (← give g o (.ofList value), none)

/-- Reads a long option. If it still needs its value, its form is returned. -/
def giveLong (g : Given) (word : List Char) : Except Halt (Given × Option OptionForm) :=
  let (name, rest) := word.span (· != '=')
  match f.long? (.ofList name), rest with
  | none, _ => .error .fault
  | some o, [] =>
    if o.value == .none then do return (← give g o "", none) else .ok (g, some o)
  | some o, _ :: value =>
    if o.value == .none then .error .fault else do return (← give g o (.ofList value), none)

/-- Reads an option with its dashes. A word that is no option has no result; a lone dash is none. -/
def giveOption? (g : Given) (word : String) : Option (Except Halt (Given × Option OptionForm)) :=
  match word.toList with
  | '-' :: '-' :: name => some (f.giveLong g name)
  | '-' :: c :: cs => some (f.giveCluster g (c :: cs))
  | _ => none

/-- Whether a word can be the value of an option before it. -/
def isValue (word : String) : Bool :=
  match word.toList with
  | '-' :: _ :: _ => false
  | _ => true

/-- Reads the words of a command line. -/
def read (g : Given) : List String → Except Halt Given
  | [] => .ok g
  | "--" :: words =>
    if f.hasCommands && !words.isEmpty then .error .fault else words.foldlM f.giveOperand g
  | word :: words =>
    match f.giveOption? g word with
    | none =>
      if f.hasCommands then .ok { g with command := some (word, words) }
      else do read (← f.giveOperand g word) words
    | some given => do
      match ← given, words with
      | (g, none), words => read g words
      | (g, some o), value :: words =>
        if isValue value then read (← give g o value) words else .error .fault
      | (_, some _), [] => .error .fault

end CommandForm

end SqlFootprint.CommandLine
