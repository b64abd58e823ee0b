import SqlFootprint.Json.Basic

/-!
# Printing Json

Two layouts: `compact` on one line, and `pretty` with two spaces per level. Characters beyond
ASCII are printed as they are.
-/

namespace SqlFootprint.Json

def hexDigit (n : Nat) : Char :=
  if n < 10 then .ofNat (48 + n) else .ofNat (87 + n)

/-- A character inside quotes. -/
def escapeChar (c : Char) : List Char :=
  if c == '"' then ['\\', '"']
  else if c == '\\' then ['\\', '\\']
  else if c.toNat < 0x20 then
    if c.toNat == 8 then ['\\', 'b']
    else if c == '\t' then ['\\', 't']
    else if c == '\n' then ['\\', 'n']
    else if c.toNat == 12 then ['\\', 'f']
    else if c == '\r' then ['\\', 'r']
    else ['\\', 'u', '0', '0', hexDigit (c.toNat / 16), hexDigit (c.toNat % 16)]
  else [c]

def quote (s : String) : String :=
  "\"" ++ .ofList (s.toList.flatMap escapeChar) ++ "\""

mutual

/-- A value on one line. -/
def compact : Json → String
  | .null => "null"
  | .bool true => "true"
  | .bool false => "false"
  | .natural n => toString n
  | .number text => text
  | .string s => quote s
  | .array items => "[" ++ ",".intercalate (compactItems items) ++ "]"
  | .object members => "\x7b" ++ ",".intercalate (compactMembers members) ++ "\x7d"

def compactItems : List Json → List String
  | [] => []
  | j :: js => j.compact :: compactItems js

def compactMembers : List (String × Json) → List String
  | [] => []
  | m :: ms => compactMember m :: compactMembers ms

def compactMember : String × Json → String
  | (name, j) => quote name ++ ":" ++ j.compact

end

/-- A new line at a level of nesting. -/
def lineBreak (level : Nat) : String :=
  "\n" ++ .ofList (List.replicate (2 * level) ' ')

/-- Lines between brackets, one level further in. -/
def block (open_ close : String) (level : Nat) (lines : List String) : String :=
  if lines.isEmpty then open_ ++ close
  else
    open_ ++ lineBreak (level + 1) ++ ("," ++ lineBreak (level + 1)).intercalate lines ++
      lineBreak level ++ close

mutual

/-- A value over several lines, at a level of nesting. -/
def prettyAt (level : Nat) : Json → String
  | .null => "null"
  | .bool true => "true"
  | .bool false => "false"
  | .natural n => toString n
  | .number text => text
  | .string s => quote s
  | .array items => block "[" "]" level (prettyItems (level + 1) items)
  | .object members => block "\x7b" "\x7d" level (prettyMembers (level + 1) members)

def prettyItems (level : Nat) : List Json → List String
  | [] => []
  | j :: js => j.prettyAt level :: prettyItems level js

def prettyMembers (level : Nat) : List (String × Json) → List String
  | [] => []
  | m :: ms => prettyMember level m :: prettyMembers level ms

def prettyMember (level : Nat) : String × Json → String
  | (name, j) => quote name ++ ": " ++ j.prettyAt level

end

/-- A value over several lines. -/
def pretty (j : Json) : String :=
  j.prettyAt 0

end SqlFootprint.Json
