import SqlFootprint.Text.CaseTable

/-!
# Letter case

`lower` and `upper` are the full case mappings of Unicode, with the rule for a final sigma.
`sameName` compares names the way identifiers are compared: up to the case of ASCII letters.
-/

namespace SqlFootprint.Text

/-- The ASCII lower case of a text, which identifies the spellings of a name. -/
def foldAscii (s : String) : String :=
  s.map Char.toLower

/-- Equality of names up to the case of ASCII letters. -/
def sameName (a b : String) : Bool :=
  foldAscii a == foldAscii b

theorem sameName_iff {a b : String} : sameName a b ↔ foldAscii a = foldAscii b := by
  simp [sameName]

@[simp] theorem sameName_refl (a : String) : sameName a a := sameName_iff.2 rfl

theorem sameName_symm {a b : String} (h : sameName a b) : sameName b a :=
  sameName_iff.2 (sameName_iff.1 h).symm

theorem sameName_trans {a b c : String} (h : sameName a b) (k : sameName b c) : sameName a c :=
  sameName_iff.2 ((sameName_iff.1 h).trans (sameName_iff.1 k))

def isCased (c : Char) : Bool :=
  casedRanges.any fun (low, high) ↦ low ≤ c.toNat && c.toNat ≤ high

def isCaseIgnorable (c : Char) : Bool :=
  caseIgnorableRanges.any fun (low, high) ↦ low ≤ c.toNat && c.toNat ≤ high

/-- The image of a character under the first run that holds it. -/
def mapByRuns (runs : List CaseRun) (c : Char) : Char :=
  match runs.find? (·.contains c.toNat) with
  | some run => .ofNat (c.toNat + run.offset).toNat
  | none => c

/-- Whether the first character that is not case-ignorable is cased. -/
def leadsToCased (cs : List Char) : Bool :=
  match cs.dropWhile isCaseIgnorable with
  | c :: _ => isCased c
  | [] => false

/-- Lower case of one character between the reversed text before it and the text after it.
A capital sigma that ends a word becomes the final form. -/
def lowerChar (before : List Char) (c : Char) (after : List Char) : List Char :=
  if c.toNat < 0x80 then [c.toLower]
  else if c == 'Σ' then
    if leadsToCased before && !leadsToCased after then ['ς'] else ['σ']
  else if c == 'İ' then ['i', '\u0307']
  else [mapByRuns lowerRuns c]

def lowerList (before : List Char) : List Char → List Char
  | [] => []
  | c :: rest => lowerChar before c rest ++ lowerList (c :: before) rest

/-- Full lower case. -/
def lower (s : String) : String :=
  .ofList (lowerList [] s.toList)

def upperChar (c : Char) : List Char :=
  if c.toNat < 0x80 then [c.toUpper]
  else match upperSequences.find? (·.1 == c.toNat) with
    | some (_, image) => image.map .ofNat
    | none => [mapByRuns upperRuns c]

/-- Full upper case. -/
def upper (s : String) : String :=
  .ofList (s.toList.flatMap upperChar)

end SqlFootprint.Text
