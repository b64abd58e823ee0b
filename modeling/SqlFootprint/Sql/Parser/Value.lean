import SqlFootprint.Sql.Literal
import SqlFootprint.Sql.Parser.Basic

/-!
# Reading values

Literals, and the fields of dates and times.
-/

namespace SqlFootprint.Sql.Parse

/-- A literal, in its canonical spelling. -/
def value : Parse String := do
  let t ← take
  match t.token with
  | .word w =>
    match w.quote, w.keyword with
    | none, "TRUE" => return "true"
    | none, "FALSE" => return "false"
    | none, "NULL" => return "NULL"
    | none, _ => failAt "a concrete value" t
    | some '"', _ => return quoteWith '"' w.text
    | some _, _ => failAt "A value?" t
  | .number digits long => return if long then digits ++ "L" else digits
  | .string form text => return form.literal text
  | .placeholder text => return text
  | .symbol s =>
    if s == ":" || s == "@" then
      let name ← take
      match name.token with
      | .word w => return s ++ w.text
      | .number digits false => return s ++ digits
      | _ => failAt "placeholder" name
    else failAt "a value" t
  | _ => failAt "a value" t

/-- A number without a sign, or a placeholder for one. -/
def number : Parse String := do
  let t ← next
  let text ← value
  match t.token with
  | .number .. | .placeholder _ | .symbol _ => return text
  | _ => failAt "literal number" t

/-- A number, which may have a sign. -/
def signedNumber : Parse String := do
  if ← acceptSymbol "+" then return "+" ++ (← number)
  else if ← acceptSymbol "-" then return "-" ++ (← number)
  else number

/-- The units in which an interval may be counted. -/
def intervalUnits : List String :=
  ["YEAR", "MONTH", "WEEK", "DAY", "HOUR", "MINUTE", "SECOND", "CENTURY", "DECADE", "DOW", "DOY",
    "EPOCH", "ISODOW", "ISOYEAR", "JULIAN", "MICROSECOND", "MICROSECONDS", "MILLENIUM",
    "MILLENNIUM", "MILLISECOND", "MILLISECONDS", "NANOSECOND", "NANOSECONDS", "QUARTER",
    "TIMEZONE", "TIMEZONE_HOUR", "TIMEZONE_MINUTE"]

/-- The fields of a date or time. -/
def dateFields : List String :=
  intervalUnits ++ ["DAYOFWEEK", "DAYOFYEAR", "DATE", "DATETIME", "ISOWEEK", "TIME",
    "TIMEZONE_ABBR", "TIMEZONE_REGION"]

/-- A field of a date or time. Any other name or string stands for a field of its own. -/
def dateField : Parse String := do
  let t ← take
  match t.token with
  | .word w =>
    if w.keyword == "WEEK" && (← dialect) == .ansi then
      if ← acceptSymbol "(" then
        let day ← ident
        expectSymbol ")"
        return "WEEK(" ++ day.render ++ ")"
      else return "WEEK"
    else if dateFields.contains w.keyword then return w.keyword
    else return w.toIdent.render
  | .string .plain text => return quoteString text
  | _ => failAt "date/time field" t

end SqlFootprint.Sql.Parse
