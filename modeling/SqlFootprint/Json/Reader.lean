import SqlFootprint.Json.Basic

/-!
# Reading Json

`parse?` reads a whole text as one value. Reading is by recursive descent over the characters; the
fuel is the length of the text, which every level of nesting shortens.
-/

namespace SqlFootprint.Json

def isSpace (c : Char) : Bool :=
  c == ' ' || c == '\t' || c == '\n' || c == '\r'

def skipSpace (cs : List Char) : List Char :=
  cs.dropWhile isSpace

/-- The rest of a text after some characters that it must start with. -/
def after? : (expected text : List Char) → Option (List Char)
  | [], cs => some cs
  | e :: es, c :: cs => if c == e then after? es cs else none
  | _ :: _, [] => none

/-! ## Strings -/

def hexValue? (c : Char) : Option Nat :=
  if '0' ≤ c && c ≤ '9' then some (c.toNat - 48)
  else if 'a' ≤ c && c ≤ 'f' then some (c.toNat - 87)
  else if 'A' ≤ c && c ≤ 'F' then some (c.toNat - 55)
  else none

/-- A code unit of four hexadecimal digits. -/
def codeUnit? : List Char → Option (Nat × List Char)
  | a :: b :: c :: d :: rest => do
    let n := (((← hexValue? a) * 16 + (← hexValue? b)) * 16 + (← hexValue? c)) * 16 + (← hexValue? d)
    return (n, rest)
  | _ => none

/-- A character given by its code units, of which a pair makes one character beyond the first
plane. -/
def escapedChar? (cs : List Char) : Option (Char × List Char) := do
  let (high, rest) ← codeUnit? cs
  if 0xD800 ≤ high && high < 0xDC00 then
    let (low, rest) ← codeUnit? (← after? ['\\', 'u'] rest)
    if 0xDC00 ≤ low && low < 0xE000 then
      return (.ofNat (0x10000 + (high - 0xD800) * 0x400 + (low - 0xDC00)), rest)
    else none
  else if 0xDC00 ≤ high && high < 0xE000 then none
  else return (.ofNat high, rest)

/-- The character that a letter after a backslash stands for. -/
def escapeLetter? (c : Char) : Option Char :=
  if c == '"' || c == '\\' || c == '/' then some c
  else if c == 'b' then some (.ofNat 8)
  else if c == 'f' then some (.ofNat 12)
  else if c == 'n' then some '\n'
  else if c == 'r' then some '\r'
  else if c == 't' then some '\t'
  else none

/-- The inside of a string, up to its closing quote. The characters so far are reversed. -/
def stringBody? : Nat → List Char → List Char → Option (String × List Char)
  | 0, _, _ => none
  | _ + 1, _, [] => none
  | n + 1, done, c :: cs =>
    if c == '"' then some (.ofList done.reverse, cs)
    else if c == '\\' then
      match cs with
      | [] => none
      | e :: rest =>
        if e == 'u' then
          match escapedChar? rest with
          | some (x, rest) => stringBody? n (x :: done) rest
          | none => none
        else
          match escapeLetter? e with
          | some x => stringBody? n (x :: done) rest
          | none => none
    else if c.toNat < 0x20 then none
    else stringBody? n (c :: done) cs

def string? (cs : List Char) : Option (String × List Char) :=
  match cs with
  | '"' :: rest => stringBody? (rest.length + 1) [] rest
  | _ => none

/-! ## Numbers -/

def digits (cs : List Char) : List Char × List Char :=
  cs.span Char.isDigit

def digitsValue (cs : List Char) : Nat :=
  cs.foldl (fun n c ↦ 10 * n + (c.toNat - 48)) 0

/-- An exponent with its letter and sign, or nothing. -/
def exponent? (cs : List Char) : Option (List Char × List Char) :=
  match cs with
  | e :: rest =>
    if e == 'e' || e == 'E' then
      let (sign, rest) := match rest with
        | '+' :: rest => (['+'], rest)
        | '-' :: rest => (['-'], rest)
        | _ => ([], rest)
      let (ds, rest) := digits rest
      if ds.isEmpty then none else some (e :: sign ++ ds, rest)
    else some ([], cs)
  | [] => some ([], [])

/-- A fraction with its point, or nothing. -/
def fraction? (cs : List Char) : Option (List Char × List Char) :=
  match cs with
  | '.' :: rest =>
    let (ds, rest) := digits rest
    if ds.isEmpty then none else some ('.' :: ds, rest)
  | _ => some ([], cs)

def number? (cs : List Char) : Option (Json × List Char) := do
  let (sign, rest) := match cs with
    | '-' :: rest => (['-'], rest)
    | _ => ([], cs)
  let (whole, rest) := digits rest
  if whole.isEmpty || (whole.head? == some '0' && whole.length != 1) then none
  else
    let (fraction, rest) ← fraction? rest
    let (exponent, rest) ← exponent? rest
    if sign.isEmpty && fraction.isEmpty && exponent.isEmpty then
      return (.natural (digitsValue whole), rest)
    else return (.number (.ofList (sign ++ whole ++ fraction ++ exponent)), rest)

/-! ## Values -/

mutual

/-- A value, from its first character. -/
def value? : Nat → List Char → Option (Json × List Char)
  | 0, _ => none
  | n + 1, cs =>
    match cs with
    | '"' :: _ => (string? cs).map fun (s, rest) ↦ (.string s, rest)
    | '[' :: rest =>
      match skipSpace rest with
      | ']' :: rest => some (.array [], rest)
      | rest => (items? n [] rest).map fun (js, rest) ↦ (.array js, rest)
    | '\x7b' :: rest =>
      match skipSpace rest with
      | '\x7d' :: rest => some (.object [], rest)
      | rest => (members? n [] rest).map fun (ms, rest) ↦ (.object ms, rest)
    | 'n' :: _ => (after? "null".toList cs).map fun rest ↦ (.null, rest)
    | 't' :: _ => (after? "true".toList cs).map fun rest ↦ (.bool true, rest)
    | 'f' :: _ => (after? "false".toList cs).map fun rest ↦ (.bool false, rest)
    | _ => number? cs

/-- The items of an array, up to its closing bracket. -/
def items? : Nat → List Json → List Char → Option (List Json × List Char)
  | 0, _, _ => none
  | n + 1, done, cs =>
    match value? n cs with
    | none => none
    | some (j, rest) =>
      match skipSpace rest with
      | ',' :: rest => items? n (j :: done) (skipSpace rest)
      | ']' :: rest => some ((j :: done).reverse, rest)
      | _ => none

/-- The members of an object, up to its closing brace. -/
def members? : Nat → List (String × Json) → List Char →
    Option (List (String × Json) × List Char)
  | 0, _, _ => none
  | n + 1, done, cs =>
    match string? cs with
    | none => none
    | some (name, rest) =>
      match skipSpace rest with
      | ':' :: rest =>
        match value? n (skipSpace rest) with
        | none => none
        | some (j, rest) =>
          match skipSpace rest with
          | ',' :: rest => members? n ((name, j) :: done) (skipSpace rest)
          | '\x7d' :: rest => some (((name, j) :: done).reverse, rest)
          | _ => none
      | _ => none

end

/-- Reads a text that is one value with nothing but blanks around it. -/
def parse? (text : String) : Option Json :=
  let cs := text.toList
  match value? (cs.length + 1) (skipSpace cs) with
  | some (j, rest) => if (skipSpace rest).isEmpty then some j else none
  | none => none

end SqlFootprint.Json
