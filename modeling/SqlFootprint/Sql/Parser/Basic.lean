import SqlFootprint.Sql.Keyword
import SqlFootprint.Sql.Render
import SqlFootprint.Sql.SyntaxFault

/-!
# Reading tokens

A `Parse α` walks over a list of tokens and returns an `α`, or fails where it stands. The
primitives here look at the next token, take it, or demand it. Repetition is bounded by the number
of tokens, because each round takes one.
-/

namespace SqlFootprint.Sql

/-- What a reader may look at: the whole text as tokens, and how much deeper it may nest. -/
structure Reading where
  dialect : Dialect
  tokens : Array Located
  /-- The statements, queries and expressions that may still be opened inside each other. -/
  budget : Nat
  /-- Whether this is a condition on the links of a hierarchy. -/
  linking : Bool := false

/-- A reader. Its state is the index of the next token, which a failure keeps. -/
abbrev Parse := ReaderT Reading (ExceptT SyntaxFault (StateM Nat))

namespace Token

/-- The keyword of a word, and the empty text for all else. -/
def keyword : Token → String
  | word w => w.keyword
  | _ => ""

def isSymbol (spelling : String) : Token → Bool
  | symbol s => s == spelling
  | _ => false

end Token

namespace Parse

/-! ## Single tokens -/

def dialect : Parse Dialect := return (← read).dialect

/-- The token that is `ahead` places on, without taking it. -/
def peek (ahead : Nat) : Parse Located := fun r i ↦
  (.ok ((r.tokens[i + ahead]?).getD .nowhere), i)

def next : Parse Located := peek 0

/-- Takes the next token. -/
def take : Parse Located := do
  let t ← next
  modify (· + 1)
  return t

/-- Puts the last token back. -/
def back : Parse Unit := modify (· - 1)

/-- Fails at a token. -/
def failAt {α : Type} (what : String) (found : Located) : Parse α :=
  throw (.expected what found)

/-- Fails at the next token. -/
def failNext {α : Type} (what : String) : Parse α := do
  failAt what (← next)

def atWord (keyword : String) : Parse Bool :=
  return (← next).token.keyword == keyword

def atSymbol (spelling : String) : Parse Bool :=
  return (← next).token.isSymbol spelling

/-- Takes a word if it comes next. -/
def acceptWord (keyword : String) : Parse Bool := do
  let found ← atWord keyword
  if found then modify (· + 1)
  return found

def acceptSymbol (spelling : String) : Parse Bool := do
  let found ← atSymbol spelling
  if found then modify (· + 1)
  return found

/-- Whether a list of words starts `ahead` places on. -/
def atWordsFrom (ahead : Nat) : List String → Parse Bool
  | [] => return true
  | w :: ws => do
    if (← peek ahead).token.keyword == w then atWordsFrom (ahead + 1) ws else return false

/-- Takes a list of words if all of them come next. -/
def acceptWords (keywords : List String) : Parse Bool := do
  let found ← atWordsFrom 0 keywords
  if found then modify (· + keywords.length)
  return found

/-- Whether a word comes next with an opening parenthesis after it. -/
def atCall (keyword : String) : Parse Bool :=
  return (← next).token.keyword == keyword && (← peek 1).token.isSymbol "("

/-- Takes a word and the opening parenthesis after it if both come next. -/
def acceptCall (keyword : String) : Parse Bool := do
  let found ← atCall keyword
  if found then modify (· + 2)
  return found

def acceptOneOf (keywords : List String) : Parse (Option String) := do
  let keyword := (← next).token.keyword
  if keywords.contains keyword then
    modify (· + 1)
    return some keyword
  else return none

def expectWord (keyword : String) : Parse Unit := do
  unless ← acceptWord keyword do failNext keyword

def expectWords : List String → Parse Unit
  | [] => return ()
  | w :: ws => do
    expectWord w
    expectWords ws

def expectOneOf (keywords : List String) : Parse String := do
  match ← acceptOneOf keywords with
  | some keyword => return keyword
  | none => failNext ("one of " ++ " or ".intercalate keywords)

def expectSymbol (spelling : String) : Parse Unit := do
  unless ← acceptSymbol spelling do failNext spelling

/-- Tries something that only the permissive dialect has. -/
def permissive (p : Parse Bool) : Parse Bool := do
  if (← dialect) == .ansi then p else return false

/-! ## Choice and repetition -/

/-- Tries a reader and goes back if it fails. Only a lack of depth is final. -/
def attempt {α : Type} (p : Parse α) : Parse (Option α) := fun r i ↦
  match p r i with
  | (.ok a, j) => (.ok (some a), j)
  | (.error .tooDeep, _) => (.error .tooDeep, i)
  | (.error _, _) => (.ok none, i)

/-- Tries a reader and goes back if it fails, keeping the fault. -/
def outcome {α : Type} (p : Parse α) : Parse (Except SyntaxFault α) := fun r i ↦
  match p r i with
  | (.ok a, j) => (.ok (.ok a), j)
  | (.error e, _) => (.ok (.error e), i)

/-- Tries a reader and goes on from wherever it stopped. -/
def attemptPast {α : Type} (p : Parse α) : Parse (Option α) := fun r i ↦
  match p r i with
  | (.ok a, j) => (.ok (some a), j)
  | (.error _, j) => (.ok none, j)

/-- Opens one level of nesting. -/
def descend {α : Type} (p : Parse α) : Parse α := fun r i ↦
  match r.budget with
  | 0 => (.error .tooDeep, i)
  | n + 1 => p { r with budget := n } i

/-- Applies a step to a value until there is no further one. The count bounds the steps. -/
def iterate {α : Type} (step : α → Parse (Option α)) : Nat → α → Parse α
  | 0, a => return a
  | n + 1, a => do
    match ← step a with
    | none => return a
    | some b => iterate step n b

/-- Applies a step to a value as long as it goes on. Every step takes a token. -/
def extend {α : Type} (a : α) (step : α → Parse (Option α)) : Parse α := do
  iterate step ((← read).tokens.size + 1) a

/-- Reads items as long as there are any. -/
def many {α : Type} (item : Parse (Option α)) : Parse (List α) := do
  let items ← extend [] fun items ↦ do
    match ← item with
    | none => return none
    | some a => return some (a :: items)
  return items.reverse

/-- One or more items with a separator between them. -/
def sepBy {α : Type} (separator : String) (item : Parse α) : Parse (List α) := do
  let first ← item
  let rest ← many do
    if ← acceptSymbol separator then return some (← item) else return none
  return first :: rest

/-- One or more items with commas between them. -/
def commaSep {α : Type} (item : Parse α) : Parse (List α) :=
  sepBy "," item

/-- As `commaSep`, or nothing before a closing symbol. -/
def commaSepBefore {α : Type} (close : String) (item : Parse α) : Parse (List α) := do
  if ← atSymbol close then return [] else commaSep item

/-- Something in parentheses. -/
def parens {α : Type} (p : Parse α) : Parse α := do
  expectSymbol "("
  let a ← p
  expectSymbol ")"
  return a

/-- Something that a word announces. -/
def afterWord {α : Type} (keyword : String) (p : Parse α) : Parse (Option α) := do
  if ← acceptWord keyword then return some (← p) else return none

/-! ## Names -/

/-- A name. A string in single quotes counts as one. -/
def ident : Parse Ident := do
  let t ← take
  match t.token with
  | .word w => return w.toIdent
  | .string .plain text => return ⟨text, some '\''⟩
  | _ => failAt "identifier" t

def objectName : Parse ObjectName :=
  sepBy "." ident

/-- Names in parentheses; `optional` allows none at all and `allowEmpty` an empty list. -/
def identList (optional allowEmpty : Bool) : Parse (List Ident) := do
  if ← acceptSymbol "(" then
    if allowEmpty && (← atSymbol ")") then
      let _ ← take
      return []
    else
      let names ← commaSep ident
      expectSymbol ")"
      return names
  else if optional then return []
  else failNext "a list of columns in parentheses"

/-- A name after an item. Without `AS`, a reserved word is none. -/
def optionalAlias (reserved : List String) : Parse (Option Ident) := do
  let afterAs ← acceptWord "AS"
  let t ← take
  match t.token with
  | .word w =>
    if afterAs || !reserved.contains w.keyword then return some w.toIdent
    else
      back
      return none
  | .string .plain text => return some ⟨text, some '\''⟩
  | _ =>
    if afterAs then failAt "an identifier after AS" t
    else
      back
      return none

/-! ## Literals -/

/-- The whole number that digits denote, if it fits in a number of bits. -/
def wholeNumberOf (bits : Nat) (digits : String) (t : Located) : Parse Nat :=
  if digits.isEmpty || !digits.all Char.isDigit then throw (.notWhole bits digits t)
  else
    let n := digits.foldl (fun n c ↦ 10 * n + (c.toNat - 48)) 0
    if n < Nat.pow 2 bits then return n else throw (.numberTooLarge bits digits t)

/-- A whole number that fits in a number of bits. -/
def wholeNumberIn (bits : Nat) : Parse Nat := do
  let t ← take
  match t.token with
  | .number digits _ => wholeNumberOf bits digits t
  | _ => failAt "literal int" t

/-- A whole number of 64 bits. -/
def wholeNumber : Parse Nat := wholeNumberIn 64

/-- The text of a string. A word that is no keyword counts as one. -/
def stringText : Parse String := do
  let t ← take
  match t.token with
  | .word w =>
    if isKeyword w.keyword then failAt "literal string" t else return w.text
  | .string .plain text | .string .escaped text | .string .unicode text => return text
  | _ => failAt "literal string" t

end Parse

end SqlFootprint.Sql
