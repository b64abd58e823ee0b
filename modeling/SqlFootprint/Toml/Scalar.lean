import SqlFootprint.Toml.Basic

/-!
# Reading scalars

Blanks, keys, strings, numbers and times of a configuration file.
-/

namespace SqlFootprint.Toml.Read

/-! ## Blanks -/

def isBlank (c : Char) : Bool :=
  c == ' ' || c == '\t'

/-- Whether a character may stand in a comment or string as it is. -/
def isPlain (c : Char) : Bool :=
  c == '\t' || (0x20 ≤ c.toNat && c.toNat != 0x7F)

def blanks : Read Unit := do
  let _ ← takeWhile isBlank

def newline : Read Unit := do
  if ← accept (one '\n') then return ()
  else text "\r\n"

def comment : Read Unit := do
  one '#'
  let _ ← takeWhile isPlain

/-- The end of a line: blanks, perhaps a comment, and a line break or the end of the text. -/
def lineEnd : Read Unit := do
  blanks
  let _ ← accept comment
  if ← atEnd then return () else newline

/-- Blanks, comments and line breaks, as they may stand in an array. -/
def spaces : Read Unit := do
  let _ ← many do
    match ← next? with
    | some '#' => comment
    | some c => if isBlank c then do let _ ← satisfy isBlank else newline
    | none => failure

/-! ## Strings -/

def hexValue? (c : Char) : Option Nat :=
  if '0' ≤ c && c ≤ '9' then some (c.toNat - 48)
  else if 'a' ≤ c && c ≤ 'f' then some (c.toNat - 87)
  else if 'A' ≤ c && c ≤ 'F' then some (c.toNat - 55)
  else none

/-- A character by its number in a fixed count of hexadecimal digits. -/
def hexChar : (digits : Nat) → (value : Nat) → Read Char
  | 0, n =>
    if n.isValidChar then return .ofNat n else failure
  | d + 1, n => do
    let c ← satisfy fun c ↦ (hexValue? c).isSome
    hexChar d (16 * n + (hexValue? c).getD 0)

/-- A character given by an escape, from after the backslash. -/
def escape : Read Char := do
  let c ← satisfy fun _ ↦ true
  match c with
  | '"' | '\\' => return c
  | 'b' => return .ofNat 8
  | 't' => return '\t'
  | 'n' => return '\n'
  | 'f' => return .ofNat 12
  | 'r' => return '\r'
  | 'u' => hexChar 4 0
  | 'U' => hexChar 8 0
  | _ => failure

/-- A string in double quotes, on one line. -/
def basicString : Read String := do
  one '"'
  let cs ← many do
    let c ← satisfy fun c ↦ isPlain c && c != '"'
    if c == '\\' then escape else return c
  one '"'
  return .ofList cs

/-- A string in single quotes, on one line. -/
def literalString : Read String := do
  one '\''
  let cs ← takeWhile fun c ↦ isPlain c && c != '\''
  one '\''
  return .ofList cs

/-- A break at the end of a line that a backslash hides, with the blanks after it. -/
def hiddenBreak : Read (List Char) := do
  one '\\'
  blanks
  newline
  let _ ← many do
    if ← accept (satisfy isBlank) then return () else newline
  return []

def lineBreakChars : Read (List Char) := do
  newline
  return ['\n']

/-- The quotes at the end of a string over several lines: up to two of them belong to it. -/
def closingQuotes (quote : Char) : Read (List Char) := do
  let run ← takeWhile (· == quote)
  if 3 ≤ run.length && run.length ≤ 5 then return run.drop 3 else failure

/-- One or two quotes inside a string over several lines. -/
def innerQuotes (quote : Char) : Read (List Char) := do
  let run ← takeWhile1 (· == quote)
  if run.length < 3 then return run else failure

/-- A string over several lines, whose pieces besides quotes and line breaks are given. A line
break right after the opening quotes does not count. -/
def multilineString (quote : Char) (piece : Read (List Char)) : Read String := do
  text (.ofList [quote, quote, quote])
  let _ ← accept newline
  let parts ← many do
    match ← optional (innerQuotes quote) with
    | some cs => return cs
    | none =>
      match ← optional lineBreakChars with
      | some cs => return cs
      | none => piece
  return .ofList (parts.flatten ++ (← closingQuotes quote))

def multilineBasic : Read String :=
  multilineString '"' do
    match ← optional hiddenBreak with
    | some cs => return cs
    | none =>
      let c ← satisfy fun c ↦ isPlain c && c != '"'
      if c == '\\' then return [← escape] else return [c]

def multilineLiteral : Read String :=
  multilineString '\'' do return [← satisfy fun c ↦ isPlain c && c != '\'']

def string : Read String := do
  match ← get with
  | '"' :: '"' :: '"' :: _ => multilineBasic
  | '"' :: _ => basicString
  | '\'' :: '\'' :: '\'' :: _ => multilineLiteral
  | _ => literalString

/-! ## Keys -/

def isBare (c : Char) : Bool :=
  c.isAlphanum || c == '_' || c == '-'

def simpleKey : Read String := do
  match ← next? with
  | some '"' => basicString
  | some '\'' => literalString
  | _ => return .ofList (← takeWhile1 isBare)

/-- How deep tables and arrays may be nested. -/
def maxNesting : Nat := 79

/-- A key of several parts with dots between them. -/
def key : Read (List String) := do
  let first ← simpleKey
  let rest ← many do
    blanks
    one '.'
    blanks
    simpleKey
  if maxNesting ≤ rest.length then failure else return first :: rest

/-! ## Numbers -/

/-- Digits, with single underscores between them. -/
def digitRun (p : Char → Bool) : Read (List Char) := do
  let first ← satisfy p
  let rest ← many do
    let _ ← accept (one '_')
    satisfy p
  return first :: rest

def sign : Read (List Char) := do
  if ← accept (one '+') then return ['+']
  else if ← accept (one '-') then return ['-']
  else return []

def valueIn (base : Nat) (cs : List Char) : Nat :=
  cs.foldl (fun n c ↦ base * n + (hexValue? c).getD 0) 0

/-- A signed number of 64 bits. -/
def integerOf (n : Int) : Read Toml :=
  if -0x8000000000000000 ≤ n && n < 0x8000000000000000 then return .integer n else failure

/-- A whole number in base 16, 8 or 2. -/
def radixInteger : Read Toml := do
  one '0'
  let letter ← satisfy fun c ↦ c == 'x' || c == 'o' || c == 'b'
  let base := if letter == 'x' then 16 else if letter == 'o' then 8 else 2
  let cs ← digitRun fun c ↦ (hexValue? c).any (· < base)
  integerOf (valueIn base cs)

/-- Whether the number `mantissa * 10 ^ exponent` is too large for a float: whether it lies at least
half way between the largest float and the next power of two. Far from there its size decides. -/
def exceedsFloat (mantissa : Nat) (exponent : Int) : Bool :=
  let size : Int := (Nat.toDigits 10 mantissa).length + exponent
  if mantissa == 0 || size < 300 then false
  else if 320 < size then true
  else mantissa * Nat.pow 10 exponent.toNat ≥
    (Nat.pow 2 54 - 1) * Nat.pow 2 970 * Nat.pow 10 (-exponent).toNat

/-- A decimal number. It is whole unless it has a fraction or an exponent. A float that is too large
is refused, but one that is too small is not. -/
def decimal : Read Toml := do
  let sign ← sign
  let whole ← digitRun Char.isDigit
  if whole.head? == some '0' && whole.length != 1 then failure
  let fraction ← optional do
    one '.'
    digitRun Char.isDigit
  let exponent ← optional do
    let _ ← satisfy fun c ↦ c == 'e' || c == 'E'
    return (← Read.sign, ← digitRun Char.isDigit)
  match fraction, exponent with
  | none, none =>
    let n : Int := valueIn 10 whole
    integerOf (if sign == ['-'] then -n else n)
  | _, _ =>
    let places := fraction.getD []
    let (exponentSign, exponentDigits) := exponent.getD ([], [])
    let size : Int := valueIn 10 exponentDigits
    let exponentValue := if exponentSign == ['-'] then -size else size
    if sign != ['-'] && exceedsFloat (valueIn 10 (whole ++ places)) (exponentValue - places.length)
    then failure
    return .float (.ofList (sign ++ whole ++ (if fraction.isSome then '.' :: places else []) ++
      if exponent.isSome then 'e' :: exponentSign ++ exponentDigits else []))

def specialFloat : Read Toml := do
  let sign ← sign
  if ← accept (text "inf") then return .float (.ofList (sign ++ "inf".toList))
  text "nan"
  return .float (.ofList (sign ++ "nan".toList))

/-! ## Times -/

/-- A number of a fixed count of digits between bounds. -/
def bounded (count low high : Nat) : Read Nat := do
  let cs ← (List.replicate count ()).mapM fun _ ↦ satisfy Char.isDigit
  let n := valueIn 10 cs
  if low ≤ n && n ≤ high then return n else failure

def daysIn (year month : Nat) : Nat :=
  if month == 2 then
    if year % 4 == 0 && (year % 100 != 0 || year % 400 == 0) then 29 else 28
  else if [4, 6, 9, 11].contains month then 30
  else 31

def fullDate : Read Unit := do
  let year ← bounded 4 0 9999
  one '-'
  let month ← bounded 2 1 12
  one '-'
  let _ ← bounded 2 1 (daysIn year month)

def clock : Read Unit := do
  let _ ← bounded 2 0 23
  one ':'
  let _ ← bounded 2 0 59
  one ':'
  let _ ← bounded 2 0 60
  let _ ← optional do
    one '.'
    takeWhile1 Char.isDigit

def zone : Read Unit := do
  let c ← satisfy fun c ↦ c == 'Z' || c == 'z' || c == '+' || c == '-'
  if c == '+' || c == '-' then
    let _ ← bounded 2 0 23
    one ':'
    let _ ← bounded 2 0 59

def dateTime : Read Unit := do
  fullDate
  let _ ← optional do
    let _ ← satisfy fun c ↦ c == 'T' || c == 't' || c == ' '
    clock
    let _ ← optional zone

/-- A date, a time of day, or both. -/
def time : Read Toml := do
  let start ← get
  match ← optional dateTime with
  | some () => pure ()
  | none => clock
  let rest ← get
  return .time (.ofList (start.take (start.length - rest.length)))

/-- A value that is neither an array nor a table. -/
def scalar : Read Toml := do
  match ← next? with
  | some '"' | some '\'' => return .string (← string)
  | some 't' =>
    text "true"
    return .boolean true
  | some 'f' =>
    text "false"
    return .boolean false
  | _ =>
    let readers := [time, radixInteger, specialFloat]
    for r in readers do
      if let some v ← optional r then return v
    decimal

end SqlFootprint.Toml.Read
