/-!
# Toml values

A value of a configuration file. Floats and times keep their spelling, because nothing here
computes with them.
-/

namespace SqlFootprint

inductive Toml where
  | string (s : String)
  | integer (n : Int)
  | float (text : String)
  | boolean (b : Bool)
  | time (text : String)
  | array (items : List Toml)
  | table (entries : List (String × Toml))
deriving Repr, Inhabited

namespace Toml

/-- A reader of a prefix of a text. -/
abbrev Read := StateT (List Char) Option

namespace Read

/-- Takes a character that satisfies a test. -/
def satisfy (p : Char → Bool) : Read Char := fun cs ↦
  match cs with
  | c :: rest => if p c then some (c, rest) else none
  | [] => none

def one (c : Char) : Read Unit := do
  let _ ← satisfy (· == c)

/-- Takes a fixed text. -/
def text (expected : String) : Read Unit := fun cs ↦
  (expected.toList.isPrefixOf? cs).map fun rest ↦ ((), rest)

/-- Takes all characters up to the first that fails a test. -/
def takeWhile (p : Char → Bool) : Read (List Char) := fun cs ↦
  some (cs.takeWhile p, cs.dropWhile p)

def takeWhile1 (p : Char → Bool) : Read (List Char) := do
  let cs ← takeWhile p
  if cs.isEmpty then failure else return cs

/-- The next character, without taking it. -/
def next? : Read (Option Char) := fun cs ↦ some (cs.head?, cs)

def atEnd : Read Bool := fun cs ↦ some (cs.isEmpty, cs)

/-- Tries a reader and goes back if it fails. -/
def optional {α : Type} (r : Read α) : Read (Option α) := fun cs ↦
  match r cs with
  | some (a, rest) => some (some a, rest)
  | none => some (none, cs)

/-- Whether a reader can be applied; if so, it is. -/
def accept {α : Type} (r : Read α) : Read Bool :=
  return (← optional r).isSome

/-- Applies a reader as often as it goes, at most once for each character and once more. -/
def many {α : Type} (r : Read α) : Read (List α) := do
  let rec go : Nat → List α → Read (List α)
    | 0, done => return done.reverse
    | n + 1, done => do
      match ← optional r with
      | some a => go n (a :: done)
      | none => return done.reverse
  go ((← get).length + 1) []

end Read

end Toml

end SqlFootprint
