import SqlFootprint.Sql.Dialect
import SqlFootprint.Sql.Token
import SqlFootprint.Text.Blank
import SqlFootprint.Text.Digit

/-!
# The lexer

`tokenize` cuts a text into tokens and notes where each one starts and which blanks and comments
stand before it. Every scanner takes the rest of the text and returns a shorter one.
-/

namespace SqlFootprint.Sql

/-- Why a text cannot be cut into tokens. -/
inductive LexFault where
  | unterminatedString
  | unterminatedEscapedString
  | unterminatedUnicodeString
  | unterminatedIdentifier (close : Char)
  | unterminatedDollarString
  | unterminatedTaggedString
  | unterminatedComment
  | missingHexDigit
  | badHexDigit (c : Char)
  | badScalar (code : Nat)
deriving DecidableEq, Repr

def LexFault.message : LexFault → String
  | .unterminatedString => "Unterminated string literal"
  | .unterminatedEscapedString => "Unterminated encoded string literal"
  | .unterminatedUnicodeString => "Unterminated unicode encoded string literal"
  | .unterminatedIdentifier close =>
    "Expected close delimiter '" ++ close.toString ++ "' before EOF."
  | .unterminatedDollarString => "Unterminated dollar-quoted string"
  | .unterminatedTaggedString => "Unterminated dollar-quoted, expected $"
  | .unterminatedComment => "Unexpected EOF while in a multi-line comment"
  | .missingHexDigit => "Unexpected EOF while parsing hex digit in escaped unicode string."
  | .badHexDigit c => "Invalid hex digit in escaped unicode string: " ++ c.toString
  | .badScalar code => "Invalid unicode character: " ++ String.ofList (Nat.toDigits 16 code)

structure LexFailure where
  fault : LexFault
  position : Position
deriving DecidableEq, Repr

/-- The rest of a text and its place. -/
structure Cursor where
  rest : List Char
  position : Position
deriving Repr

namespace Cursor

/-- Moves over the characters that `p` accepts and returns them. -/
def span (p : Char → Bool) (c : Cursor) : List Char × Cursor :=
  let taken := c.rest.takeWhile p
  (taken, ⟨c.rest.dropWhile p, taken.foldl Position.after c.position⟩)

/-- Moves over `n` characters. -/
def skip (c : Cursor) (n : Nat) : Cursor :=
  ⟨c.rest.drop n, (c.rest.take n).foldl Position.after c.position⟩

end Cursor

/-- The content of a quoted text, in which a doubled quote stands for itself. -/
def scanQuoted (quote : Char) (p : Position) : List Char → Option (List Char × Cursor)
  | [] => none
  | c :: rest =>
    if c == quote then
      match rest with
      | d :: rest' =>
        if d == quote then
          (scanQuoted quote ((p.after c).after d) rest').map fun (cs, k) ↦ (quote :: cs, k)
        else some ([], ⟨rest, p.after c⟩)
      | [] => some ([], ⟨[], p.after c⟩)
    else (scanQuoted quote (p.after c) rest).map fun (cs, k) ↦ (c :: cs, k)

/-- What a backslash and the character after it stand for. -/
def backslashValue : Char → Char
  | '0' => '\x00'
  | 'a' => '\x07'
  | 'b' => '\x08'
  | 'f' => '\x0c'
  | 'n' => '\n'
  | 'r' => '\r'
  | 't' => '\t'
  | 'Z' => '\x1a'
  | c => c

/-- As `scanQuoted`, where a backslash also escapes the character after it. -/
def scanBackslashed (quote : Char) (p : Position) : List Char → Option (List Char × Cursor)
  | [] => none
  | c :: rest =>
    if c == quote then
      match rest with
      | d :: rest' =>
        if d == quote then
          (scanBackslashed quote ((p.after c).after d) rest').map fun (cs, k) ↦ (quote :: cs, k)
        else some ([], ⟨rest, p.after c⟩)
      | [] => some ([], ⟨[], p.after c⟩)
    else if c == '\\' then
      match rest with
      | d :: rest' =>
        (scanBackslashed quote ((p.after c).after d) rest').map fun (cs, k) ↦
          (backslashValue d :: cs, k)
      | [] => none
    else (scanBackslashed quote (p.after c) rest).map fun (cs, k) ↦ (c :: cs, k)

def hexDigitValue? (c : Char) : Option Nat :=
  if c.isDigit then some (c.toNat - 48)
  else if 'a' ≤ c && c ≤ 'f' then some (c.toNat - 87)
  else if 'A' ≤ c && c ≤ 'F' then some (c.toNat - 55)
  else none

def isHexDigit (c : Char) : Bool :=
  (hexDigitValue? c).isSome

def isOctalDigit (c : Char) : Bool :=
  '0' ≤ c && c ≤ '7'

/-- The scalar value with a code point, unless it is a surrogate or too large. -/
def scalar? (code : Nat) : Option Char :=
  if code < 0xD800 || (0xDFFF < code && code < 0x110000) then some (.ofNat code) else none

/-- A number whose digits all belong to the base; a sign may come first. -/
def readHex? (cs : List Char) : Option Nat :=
  let digits := match cs with
    | '+' :: rest => rest
    | _ => cs
  if digits.isEmpty then none
  else digits.foldlM (fun n c ↦ (hexDigitValue? c).map (16 * n + ·)) 0

/-- The character with the low byte of a code, if it is ASCII and not null. -/
def lowAscii? (code : Nat) : Option Char :=
  let low := code % 256
  if low ≤ 127 && low != 0 then some (.ofNat low) else none

/-- The character that an escape stands for, given the text after its backslash, and how many
characters it spans. -/
def escapeValue? : List Char → Option (Char × Nat)
  | [] => none
  | 'b' :: _ => some ('\x08', 1)
  | 'f' :: _ => some ('\x0c', 1)
  | 'n' :: _ => some ('\n', 1)
  | 'r' :: _ => some ('\r', 1)
  | 't' :: _ => some ('\t', 1)
  | 'u' :: rest => do
    guard (4 ≤ rest.length)
    let c ← scalar? (← readHex? (rest.take 4))
    guard (c != '\x00')
    return (c, 5)
  | 'U' :: rest => do
    guard (8 ≤ rest.length)
    let c ← scalar? (← readHex? (rest.take 8))
    guard (c != '\x00')
    return (c, 9)
  | 'x' :: rest =>
    match (rest.take 2).takeWhile isHexDigit with
    | [] => some ('x', 1)
    | digits => do return (← lowAscii? (← readHex? digits), digits.length + 1)
  | c :: rest =>
    if isOctalDigit c then do
      let digits := c :: (rest.take 2).takeWhile isOctalDigit
      let code := digits.foldl (fun n d ↦ 8 * n + (d.toNat - 48)) 0
      return (← lowAscii? code, digits.length)
    else if c == '\x00' then none
    else some (c, 1)

/-- The content of a string with escapes, from after its opening quote. The count bounds the
characters left to read. -/
def scanEscaped : Nat → Cursor → Option (List Char × Cursor)
  | 0, _ => none
  | n + 1, c =>
    match c.rest with
    | [] => none
    | '\'' :: '\'' :: _ => (scanEscaped n (c.skip 2)).map fun (cs, k) ↦ ('\'' :: cs, k)
    | '\'' :: _ => some ([], c.skip 1)
    | '\\' :: rest => do
      let (value, width) ← escapeValue? rest
      let (cs, k) ← scanEscaped n (c.skip (width + 1))
      return (value :: cs, k)
    | d :: _ => (scanEscaped n (c.skip 1)).map fun (cs, k) ↦ (d :: cs, k)

/-- A character given by a fixed number of hexadecimal digits. -/
def scanHexScalar : (width : Nat) → (value : Nat) → Cursor → Except LexFailure (Char × Cursor)
  | 0, value, c =>
    match scalar? value with
    | some char => .ok (char, c)
    | none => .error ⟨.badScalar value, c.position⟩
  | width + 1, value, c =>
    match c.rest with
    | [] => .error ⟨.missingHexDigit, c.position⟩
    | d :: _ =>
      match hexDigitValue? d with
      | some digit => scanHexScalar width (16 * value + digit) (c.skip 1)
      | none => .error ⟨.badHexDigit d, (c.skip 1).position⟩

/-- The content of a string with Unicode escapes, from after its opening quote. -/
def scanUnicode : Nat → Cursor → Except LexFailure (List Char × Cursor)
  | 0, c => .error ⟨.unterminatedUnicodeString, c.position⟩
  | n + 1, c =>
    match c.rest with
    | [] => .error ⟨.unterminatedUnicodeString, c.position⟩
    | '\'' :: '\'' :: _ => do
      let (cs, k) ← scanUnicode n (c.skip 2)
      return ('\'' :: cs, k)
    | '\'' :: _ => return ([], c.skip 1)
    | '\\' :: '\\' :: _ => do
      let (cs, k) ← scanUnicode n (c.skip 2)
      return ('\\' :: cs, k)
    | '\\' :: '+' :: _ => do
      let (char, next) ← scanHexScalar 6 0 (c.skip 2)
      let (cs, k) ← scanUnicode n next
      return (char :: cs, k)
    | '\\' :: _ => do
      let (char, next) ← scanHexScalar 4 0 (c.skip 1)
      let (cs, k) ← scanUnicode n next
      return (char :: cs, k)
    | d :: _ => do
      let (cs, k) ← scanUnicode n (c.skip 1)
      return (d :: cs, k)

/-- The content of a string between two pairs of dollars. A lone dollar stands for itself. -/
def scanDollars (p : Position) : List Char → Except LexFailure (List Char × Cursor)
  | [] => .error ⟨.unterminatedDollarString, p⟩
  | '$' :: rest =>
    match rest with
    | '$' :: rest' => .ok ([], ⟨rest', (p.after '$').after '$'⟩)
    | d :: rest' => do
      let (cs, k) ← scanDollars ((p.after '$').after d) rest'
      return ('$' :: d :: cs, k)
    | [] => .error ⟨.unterminatedDollarString, p.after '$'⟩
  | c :: rest => do
    let (cs, k) ← scanDollars (p.after c) rest
    return (c :: cs, k)

/-- Reads on along a tag: the characters read, and whether they were the whole tag. -/
def matchTag : (tag : List Char) → Cursor → Option (List Char × Bool × Cursor)
  | [], c => some ([], true, c)
  | t :: tag, c =>
    match c.rest with
    | [] => none
    | d :: _ =>
      if d == t then (matchTag tag (c.skip 1)).map fun (cs, whole, k) ↦ (d :: cs, whole, k)
      else some ([d], false, c.skip 1)

/-- The content of a string that ends with `$tag$`. -/
def scanTagged (tag : List Char) : Nat → Cursor → Except LexFailure (List Char × Cursor)
  | 0, c => .error ⟨.unterminatedTaggedString, c.position⟩
  | n + 1, c => do
    let (body, afterBody) := c.span (· != '$')
    if afterBody.rest.isEmpty then
      throw ⟨.unterminatedTaggedString, afterBody.position⟩
    match matchTag tag (afterBody.skip 1) with
    | none =>
      let atEnd := afterBody.skip afterBody.rest.length
      throw ⟨.unterminatedTaggedString, atEnd.position⟩
    | some (read, whole, next) =>
      if whole && next.rest.head? == some '$' then return (body, next.skip 1)
      let (cs, k) ← scanTagged tag n next
      return (body ++ '$' :: read ++ cs, k)

/-- The text after a comment whose opening `/*` has been read, `depth` comments deep. A slash
that closes a comment also opens one with a star after it. -/
def skipComment (depth : Nat) (last : Char) (p : Position) :
    List Char → Except LexFailure Cursor
  | [] => .error ⟨.unterminatedComment, p⟩
  | c :: rest =>
    if last == '/' && c == '*' then skipComment (depth + 1) c (p.after c) rest
    else if last == '*' && c == '/' then
      if depth ≤ 1 then .ok ⟨rest, p.after c⟩
      else skipComment (depth - 1) c (p.after c) rest
    else skipComment depth c (p.after c) rest

/-- One lexical element: a token, or what stands between tokens. -/
abbrev Lexeme := (Gap ⊕ Token) × Cursor

section Scanners

variable (d : Dialect)

def symbolAt (c : Cursor) (spelling : String) : Lexeme :=
  (.inr (.symbol spelling), c.skip spelling.length)

/-- An operator that the dialect may prolong into a user-defined one. -/
def operatorAt (c : Cursor) (spelling : String) : Lexeme :=
  let (more, next) := (c.skip spelling.length).span d.prolongsOperator
  if more.isEmpty then (.inr (.symbol spelling), next)
  else (.inr (.customOperator (spelling ++ .ofList more)), next)

/-- A word that starts with `width` characters, whatever they are. Digits and dots alone make
a number. -/
def wordAt (c : Cursor) (width : Nat) : Lexeme :=
  let (more, next) := (c.skip width).span d.continuesWord
  let text := c.rest.take width ++ more
  let numeric (ch : Char) := ch.isDigit || ch == '.'
  if text.all numeric then
    let (tail, next) := next.span numeric
    (.inr (.number (.ofList (text ++ tail)) false), next)
  else (.inr (.word { text := .ofList text }), next)

/-- The exponent of a number, if digits follow its mark and sign. -/
def exponentAt (c : Cursor) : List Char × Cursor :=
  match c.rest with
  | e :: rest =>
    if e == 'e' || e == 'E' then
      let (signed, afterSign) := match rest with
        | s :: rest' => if s == '+' || s == '-' then ([e, s], rest') else ([e], rest)
        | [] => ([e], rest)
      if (afterSign.head?.map Char.isDigit).getD false then
        let (digits, next) := (c.skip signed.length).span Char.isDigit
        (signed ++ digits, next)
      else ([], c)
    else ([], c)
  | [] => ([], c)

def numberAt (c : Cursor) : Lexeme :=
  let (whole, afterWhole) := c.span Char.isDigit
  match whole, afterWhole.rest with
  | ['0'], 'x' :: _ =>
    let (digits, next) := (afterWhole.skip 1).span isHexDigit
    (.inr (.string .hex (.ofList digits)), next)
  | _, _ =>
    let (point, afterPoint) :=
      if afterWhole.rest.head? == some '.' then (['.'], afterWhole.skip 1) else ([], afterWhole)
    let (fraction, afterFraction) := afterPoint.span Char.isDigit
    let mantissa := whole ++ point ++ fraction
    if mantissa == ['.'] then (.inr (.symbol "."), afterFraction)
    else
      let (exponent, next) := exponentAt afterFraction
      let digits := String.ofList (mantissa ++ exponent)
      if next.rest.head? == some 'L' then (.inr (.number digits true), next.skip 1)
      else (.inr (.number digits false), next)

/-- The rest of a text after three quotes in a row, and what comes before them. -/
def scanTripled (quote : Char) (p : Position) : List Char → Option (List Char × Cursor)
  | [] => none
  | c :: rest =>
    match c == quote, rest with
    | true, d :: e :: rest' =>
      if d == quote && e == quote then
        some ([], ⟨rest', ((p.after c).after d).after e⟩)
      else (scanTripled quote (p.after c) rest).map fun (cs, k) ↦ (c :: cs, k)
    | _, _ => (scanTripled quote (p.after c) rest).map fun (cs, k) ↦ (c :: cs, k)

/-- A string whose opening quote is `width` characters on. -/
def stringAt (c : Cursor) (width : Nat) (form : StringForm) (quote : Char) (backslash : Bool) :
    Except LexFailure Lexeme :=
  let opening := c.skip width
  let start := opening.skip 1
  match (if backslash then scanBackslashed else scanQuoted) quote start.position start.rest with
  | some (text, next) => .ok (.inr (.string form (.ofList text)), next)
  | none => .error ⟨.unterminatedString, opening.position⟩

/-- A raw string whose opening quotes are one character on. Two quotes alone are an empty one. -/
def rawStringAt (c : Cursor) (quote : Char) (double : Bool) : Except LexFailure Lexeme :=
  let quotes := (((c.rest.drop 1).take 3).takeWhile (· == quote)).length
  let start := c.skip (quotes + 1)
  match quotes with
  | 2 => .ok (.inr (.string (.raw double false) ""), start)
  | 3 =>
    match scanTripled quote start.position start.rest with
    | some (text, next) => .ok (.inr (.string (.raw double true) (.ofList text)), next)
    | none => .error ⟨.unterminatedString, start.position⟩
  | _ =>
    match scanQuoted quote start.position start.rest with
    | some (text, next) => .ok (.inr (.string (.raw double false) (.ofList text)), next)
    | none => .error ⟨.unterminatedString, start.position⟩

def quotedWordAt (c : Cursor) (quote : Char) : Except LexFailure Lexeme :=
  let start := c.skip 1
  match scanQuoted quote start.position start.rest with
  | some (text, next) => .ok (.inr (.word { text := .ofList text, quote := some quote }), next)
  | none => .error ⟨.unterminatedIdentifier quote, c.position⟩

/-- A dollar opens a string, or a placeholder. -/
def dollarAt (c : Cursor) : Except LexFailure Lexeme :=
  let start := c.skip 1
  if start.rest.head? == some '$' then do
    let body := start.skip 1
    let (text, next) ← scanDollars body.position body.rest
    return (.inr (.string (.dollar none) (.ofList text)), next)
  else
    let (tag, afterTag) := start.span fun ch ↦
      Text.isLetter ch || Text.isNumeric ch || ch == '_'
    if afterTag.rest.head? == some '$' then do
      let (text, next) ← scanTagged tag c.rest.length (afterTag.skip 1)
      let form := StringForm.dollar (if tag.isEmpty then none else some (.ofList tag))
      return (.inr (.string form (.ofList text)), next)
    else .ok (.inr (.placeholder (.ofList ('$' :: tag))), afterTag)

/-- A comment that takes the rest of the line, its end included. -/
def lineCommentAt (c : Cursor) : Lexeme :=
  let (comment, next) := c.span (· != '\n')
  (.inl (.other (.ofList (comment ++ next.rest.take 1))), next.skip 1)

/-- A comment between `/*` and `*/`. -/
def blockCommentAt (c : Cursor) : Except LexFailure Lexeme := do
  let body := c.skip 2
  let next ← skipComment 1 ' ' body.position body.rest
  return (.inl (.other (.ofList (c.rest.take (c.rest.length - next.rest.length)))), next)

/-- A letter that opens a string if a quote follows it, and else a word. -/
def letterAt (c : Cursor) : Except LexFailure Lexeme :=
  match c.rest with
  | a :: '\'' :: _ =>
    match a with
    | 'b' | 'B' => stringAt c 1 .bits '\'' false
    | 'n' | 'N' => stringAt c 1 .national '\'' true
    | 'x' | 'X' => stringAt c 1 .hex '\'' true
    | 'e' | 'E' =>
      match scanEscaped c.rest.length (c.skip 2) with
      | some (text, next) => .ok (.inr (.string .escaped (.ofList text)), next)
      | none => .error ⟨.unterminatedEscapedString, c.position⟩
    | _ =>
      if d == .ansi && (a == 'r' || a == 'R') then rawStringAt c '\'' false
      else .ok (wordAt d c 1)
  | a :: '"' :: _ =>
    if a == 'b' || a == 'B' then stringAt c 1 .doubleBits '"' false
    else if d == .ansi && (a == 'r' || a == 'R') then rawStringAt c '"' true
    else .ok (wordAt d c 1)
  | a :: '&' :: '\'' :: _ =>
    if a == 'u' || a == 'U' then do
      let (text, next) ← scanUnicode c.rest.length (c.skip 3)
      return (.inr (.string .unicode (.ofList text)), next)
    else .ok (wordAt d c 1)
  | _ => .ok (wordAt d c 1)

/-- An at sign is an operator, or opens a word where the dialect allows it. -/
def atSignAt (c : Cursor) : Lexeme :=
  match c.rest.drop 1 with
  | '>' :: _ => symbolAt c "@>"
  | '?' :: _ => symbolAt c "@?"
  | '@' :: rest =>
    match rest with
    | ' ' :: _ | [] => symbolAt c "@@"
    | _ :: _ => if d.startsWord '@' then wordAt d c 3 else symbolAt c "@@"
  | [] => symbolAt c "@"
  | ch :: _ =>
    if ch == ' ' then symbolAt c "@"
    else if d.startsWord '@' then wordAt d c 2
    else symbolAt c "@"

def sharpAt (c : Cursor) : Lexeme :=
  match c.rest.drop 1 with
  | '-' :: _ => operatorAt d c "#-"
  | '>' :: '>' :: _ => operatorAt d c "#>>"
  | '>' :: _ => operatorAt d c "#>"
  | ' ' :: _ => symbolAt c "#"
  | [] => operatorAt d c "#"
  | _ :: _ => if d.startsWord '#' then wordAt d c 2 else operatorAt d c "#"

/-- A question mark takes the character after it along where it is an operator. -/
def questionAt (c : Cursor) : Lexeme :=
  match d with
  | .postgres =>
    match c.rest.drop 1 with
    | '|' :: _ => symbolAt c "?|"
    | '&' :: _ => symbolAt c "?&"
    | _ => (.inr (.symbol "?"), c.skip 2)
  | .ansi =>
    let (digits, next) := (c.skip 1).span Text.isNumeric
    (.inr (.placeholder (.ofList ('?' :: digits))), next)

/-- The lexeme that starts with the first character of a non-empty text. -/
def lexeme (first : Char) (c : Cursor) : Except LexFailure Lexeme :=
  match first, c.rest.drop 1 with
  | ' ', _ => .ok (.inl (.other " "), c.skip 1)
  | '\t', _ => .ok (.inl .tab, c.skip 1)
  | '\r', '\n' :: _ => .ok (.inl .newline, c.skip 2)
  | '\n', _ | '\r', _ => .ok (.inl .newline, c.skip 1)
  | '\'', _ => stringAt c 0 .plain '\'' false
  | '.', _ => .ok (numberAt c)
  | '(', _ | ')', _ | ',', _ | '+', _ | '*', _ | ';', _ | '\\', _ | '[', _ | ']', _ =>
    .ok (symbolAt c first.toString)
  | '\x7b', _ | '\x7d', _ => .ok (symbolAt c first.toString)
  | '-', '-' :: _ => .ok (lineCommentAt c)
  | '-', '>' :: '>' :: _ => .ok (operatorAt d c "->>")
  | '-', '>' :: _ => .ok (operatorAt d c "->")
  | '-', _ => .ok (operatorAt d c "-")
  | '/', '*' :: _ => blockCommentAt c
  | '/', '/' :: _ => .ok (symbolAt c (if d == .ansi then "//" else "/"))
  | '/', _ => .ok (symbolAt c "/")
  | '%', ch :: _ => .ok (if Text.isBlank ch then symbolAt c "%" else operatorAt d c "%")
  | '%', _ => .ok (operatorAt d c "%")
  | '|', '/' :: _ => .ok (operatorAt d c "|/")
  | '|', '|' :: '/' :: _ => .ok (operatorAt d c "||/")
  | '|', '|' :: _ => .ok (operatorAt d c "||")
  | '|', _ => .ok (operatorAt d c "|")
  | '=', '>' :: _ => .ok (symbolAt c "=>")
  | '=', '=' :: _ => .ok (symbolAt c "==")
  | '=', _ => .ok (symbolAt c "=")
  | '!', '=' :: _ => .ok (.inr (.symbol "<>"), c.skip 2)
  | '!', '!' :: _ => .ok (symbolAt c "!!")
  | '!', '~' :: '*' :: _ => .ok (symbolAt c "!~*")
  | '!', '~' :: '~' :: '*' :: _ => .ok (symbolAt c "!~~*")
  | '!', '~' :: '~' :: _ => .ok (symbolAt c "!~~")
  | '!', '~' :: _ => .ok (symbolAt c "!~")
  | '!', _ => .ok (symbolAt c "!")
  | '<', '=' :: '>' :: _ => .ok (operatorAt d c "<=>")
  | '<', '=' :: _ => .ok (operatorAt d c "<=")
  | '<', '>' :: _ => .ok (operatorAt d c "<>")
  | '<', '<' :: _ => .ok (operatorAt d c "<<")
  | '<', '@' :: _ => .ok (operatorAt d c "<@")
  | '<', _ => .ok (operatorAt d c "<")
  | '>', '=' :: _ => .ok (operatorAt d c ">=")
  | '>', '>' :: _ => .ok (operatorAt d c ">>")
  | '>', _ => .ok (operatorAt d c ">")
  | ':', ':' :: _ => .ok (symbolAt c "::")
  | ':', '=' :: _ => .ok (symbolAt c ":=")
  | ':', _ => .ok (symbolAt c ":")
  | '&', '&' :: _ => .ok (operatorAt d c "&&")
  | '&', _ => .ok (operatorAt d c "&")
  | '^', '@' :: _ => .ok (symbolAt c "^@")
  | '^', _ => .ok (symbolAt c "^")
  | '~', '*' :: _ => .ok (operatorAt d c "~*")
  | '~', '~' :: '*' :: _ => .ok (operatorAt d c "~~*")
  | '~', '~' :: _ => .ok (operatorAt d c "~~")
  | '~', _ => .ok (operatorAt d c "~")
  | '#', _ => .ok (sharpAt d c)
  | '@', _ => .ok (atSignAt d c)
  | '?', _ => .ok (questionAt d c)
  | '$', _ => dollarAt c
  | _, _ =>
    if first.isDigit then .ok (numberAt c)
    else if d.quotesWord first then quotedWordAt c first
    else if d.startsWord first then letterAt d c
    else if Text.isBlank first then .ok (.inl (.other " "), c.skip 1)
    else .ok (.inr (.stray first), c.skip 1)

/-- All tokens of a text and its end, given what stands before the next one, the last first. The
count bounds the characters left to read. -/
def tokenizeFrom : Nat → List Gap → Cursor → Except LexFailure (List Located)
  | 0, gaps, c => .ok [⟨.endOfInput, c.position, gaps.reverse⟩]
  | n + 1, gaps, c =>
    match c.rest with
    | [] => .ok [⟨.endOfInput, c.position, gaps.reverse⟩]
    | first :: _ => do
      match ← lexeme d first c with
      | (.inl gap, next) => tokenizeFrom n (gap :: gaps) next
      | (.inr token, next) =>
        return ⟨token, c.position, gaps.reverse⟩ :: (← tokenizeFrom n [] next)

/-- Cuts a text into tokens, the end of the input last, or tells where and why that fails. -/
def tokenize (text : String) : Except LexFailure (List Located) :=
  tokenizeFrom d text.length [] ⟨text.toList, .start⟩

end Scanners

end SqlFootprint.Sql
