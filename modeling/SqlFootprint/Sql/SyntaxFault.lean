import SqlFootprint.Sql.Lexer
import SqlFootprint.Text.Shown

/-!
# Faults of syntax

Why a text is not SQL. Each cause carries the token at which it was found, and
`SyntaxFault.message` words it.
-/

namespace SqlFootprint.Sql

/-- The suffix that tells where a token stands. The end of the input stands nowhere. -/
def Located.suffix (t : Located) : String :=
  match t.token with
  | .endOfInput => ""
  | _ => t.position.suffix

/-- Why a text cannot be read. -/
inductive SyntaxFault where
  | lexical (failure : LexFailure)
  /-- Statements, queries and expressions are nested deeper than is allowed. -/
  | tooDeep
  | expected (what : String) (found : Located)
  /-- A `FROM` that no item of the list precedes, and the token after it. -/
  | noItemBefore (word : String) (next : Located)
  /-- A path that does not go on with a name. -/
  | noMemberName (found : Located)
  /-- An operator that takes no `ANY`, `SOME` or `ALL`. -/
  | notQuantifiable (operator : String) (at_ : Located)
  /-- A token that binds an expression on its left but makes no operator. -/
  | noInfixRule (found : Located)
  | bothTreatments (at_ : Located)
  | numberTooLarge (bits : Nat) (digits : String) (at_ : Located)
  | notWhole (bits : Nat) (digits : String) (at_ : Located)
  /-- A text where a single character was wanted. -/
  | notOneChar (text : String) (at_ : Located)
  | noExtractSource
  | scaleNotNumber
  | noOuterJoinWord (side : String)
  | unmatchedBracket (place : String) (at_ : Located)
  /-- A bracket that closes nothing, after a whole type, and the token after it. -/
  | bracketAfterType (type : String) (next : Located)
  | typedFieldAlias (at_ : Located)
  | unsupportedStatement (word : String) (next : Located)
  /-- A relation with an alias inside and outside its parentheses. -/
  | aliasedTwice (inner : String)
  | repeatedClause (clause : String) (at_ : Located)
  /-- No name of an owner, and why there is none. -/
  | noOwner (cause : SyntaxFault)
  | unsupported (what : String) (at_ : Located)
deriving Repr

namespace SyntaxFault

/-- A token as a diagnostic names its kind. -/
def tokenKind : Token → String
  | .word w =>
    "Word(Word \x7b value: \"" ++ w.text ++ "\", quote_style: " ++
      (match w.quote with
        | none => "None"
        | some q => "Some('" ++ q.toString ++ "')") ++
      ", keyword: " ++ (if w.keyword.isEmpty then "NoKeyword" else w.keyword) ++ " \x7d)"
  | .symbol "#" => "Sharp"
  | .symbol "!" => "ExclamationMark"
  | token => token.render

/-- What went wrong, in words. -/
def message : SyntaxFault → String
  | lexical ⟨fault, position⟩ => fault.message ++ position.suffix
  | tooDeep => "recursion limit exceeded"
  | expected what found =>
    "Expected: " ++ what ++ ", found: " ++ found.token.render ++ found.suffix
  | noItemBefore word next => "Expected an expression, found: " ++ word ++ next.suffix
  | noMemberName found => "Expected identifier, found: " ++ found.token.render ++ found.suffix
  | notQuantifiable operator place =>
    "Expected one of [=, >, <, =>, =<, !=] as comparison operator, found: " ++ operator ++
      place.suffix
  | noInfixRule found => "No infix parser for token " ++ tokenKind found.token ++ found.suffix
  | bothTreatments place => "Cannot specify both ALL and DISTINCT" ++ place.suffix
  | numberTooLarge bits digits place =>
    "Could not parse '" ++ digits ++ "' as u" ++ toString bits ++
      ": number too large to fit in target type" ++ place.suffix
  | notWhole bits digits place =>
    "Could not parse '" ++ digits ++ "' as u" ++ toString bits ++
      ": invalid digit found in string" ++ place.suffix
  | notOneChar text place => "Expect a char, found " ++ Text.shown text ++ place.suffix
  | noExtractSource => "Expected 'FROM' or ','"
  | scaleNotNumber => "Scale field can only be of number type"
  | noOuterJoinWord side => "expected OUTER, SEMI, ANTI or JOIN after " ++ side
  | unmatchedBracket place at_ => "unmatched > " ++ place ++ at_.suffix
  | bracketAfterType type next =>
    "unmatched > after parsing data type " ++ type ++ next.token.render
  | typedFieldAlias place => "Typed syntax does not allow AS" ++ place.suffix
  | unsupportedStatement word next => "Unsupported statement " ++ word ++ next.suffix
  | aliasedTwice inner => "duplicate alias " ++ inner
  | noOwner cause =>
    "Expected: CURRENT_USER, CURRENT_ROLE, SESSION_USER or identifier after OWNER TO. " ++
      "sql parser error: " ++ cause.message
  | repeatedClause clause place => clause ++ " specified more than once" ++ place.suffix
  | unsupported what place => what ++ place.suffix

end SyntaxFault

end SqlFootprint.Sql
