import SqlFootprint.Config.Storage
import SqlFootprint.Proofs.CommandLine.Files
import SqlFootprint.Proofs.Toml.Document

/-!
# Reading back a configuration

The file that keeps a configuration is a document of eight lines. They are read as the assignments
and headers that they were written for, and what these make of the empty document holds every
setting under its name.
-/

namespace SqlFootprint

open CommandLine (FileTree)

namespace Config

open Toml Toml.Read

variable {c : Config} {text path : String} {t : FileTree}

/-! ## Which configurations are written -/

theorem isStorable_iff :
    c.isStorable ↔ c.recursionLimit < 0x8000000000000000 ∧ c.maxDepth < 0x8000000000000000 := by
  rw [isStorable, Bool.and_eq_true, decide_eq_true_iff, decide_eq_true_iff]

theorem exists_toText?_eq (h : c.isStorable) : ∃ text, c.toText? = some text :=
  ⟨_, if_pos h⟩

theorem toText?_eq_none (h : ¬c.isStorable) : c.toText? = none :=
  if_neg h

theorem isStorable_of_toText? (h : c.toText? = some text) : c.isStorable := by
  by_contra large
  rw [toText?_eq_none large] at h
  cases h

/-! ## Lines -/

section Lines

variable {key name : String} {v : List Char} {x : Toml}

/-- The text of an assignment, and what it is read as. -/
def assigned (key : String) (v : List Char) (x : Toml) : List Char × Option Line :=
  (key.toList ++ (" = ".toList ++ (v ++ ['\n'])), some (.assignment [key] x))

def assignedName (key name : String) : List Char × Option Line :=
  assigned key ('"' :: (name.toList ++ ['"'])) (.string name)

def assignedNumber (key : String) (n : Nat) : List Char × Option Line :=
  assigned key (Nat.toDigits 10 n) (.integer n)

/-- The header of a table, and what it is read as. -/
def opened (key : String) : List Char × Option Line :=
  ('[' :: (key.toList ++ "]\n".toList), some (.header [key]))

/-- The lines of the file that keeps a configuration, and what they are read as. -/
def lines (c : Config) : List (List Char × Option Line) :=
  [assignedName "dialect" (dialectName c.dialect),
    assignedNumber "recursion_limit" c.recursionLimit,
    (['\n'], none),
    opened "extraction",
    assignedNumber "max_depth" c.maxDepth,
    (['\n'], none),
    opened "validation",
    assignedName "ambiguous_columns" (policyName c.policy)]

theorem isLine_assigned (h : IsBareKey key.toList) (hv : IsValue v x) :
    IsLine (assigned key v x).1 (assigned key v x).2 := by
  have line := isLine_assignment h hv
  rwa [String.ofList_toList] at line

theorem isLine_assignedName (h : IsBareKey key.toList)
    (plain : ∀ c ∈ name.toList, IsPlainChar c) :
    IsLine (assignedName key name).1 (assignedName key name).2 := by
  have value := isValue_string plain
  rw [String.ofList_toList] at value
  exact isLine_assigned h value

theorem isLine_opened (h : IsBareKey key.toList) : IsLine (opened key).1 (opened key).2 := by
  have line := isLine_header h
  rwa [String.ofList_toList] at line

theorem isPlainChar_of_mem_dialectName (d : Sql.Dialect) :
    ∀ c ∈ (dialectName d).toList, IsPlainChar c := by
  have all : (dialectName d).toList.all (IsPlainChar ·) := by cases d <;> decide
  simpa only [List.all_eq_true, decide_eq_true_iff] using all

theorem isPlainChar_of_mem_policyName (p : AmbiguityPolicy) :
    ∀ c ∈ (policyName p).toList, IsPlainChar c := by
  have all : (policyName p).toList.all (IsPlainChar ·) := by cases p <;> decide
  simpa only [List.all_eq_true, decide_eq_true_iff] using all

theorem isLine_of_mem_lines (h : c.isStorable) : ∀ l ∈ c.lines, IsLine l.1 l.2 := by
  obtain ⟨limit, depth⟩ := isStorable_iff.1 h
  simp only [lines, List.forall_mem_cons]
  refine ⟨?_, ?_, isLine_blank, ?_, ?_, isLine_blank, ?_, ?_, nofun⟩
  · exact isLine_assignedName (by decide) (isPlainChar_of_mem_dialectName _)
  · exact isLine_assigned (by decide) (isValue_toDigits limit)
  · exact isLine_opened (by decide)
  · exact isLine_assigned (by decide) (isValue_toDigits depth)
  · exact isLine_opened (by decide)
  · exact isLine_assignedName (by decide) (isPlainChar_of_mem_policyName _)

theorem toList_of_toText? (h : c.toText? = some text) : text.toList = c.lines.flatMap Prod.fst := by
  rw [toText?, if_pos (isStorable_of_toText? h)] at h
  obtain rfl := Option.some.inj h
  simp [lines, assignedName, assignedNumber, assigned, opened, toString]

end Lines

/-! ## Documents -/

/-- What the lines of a configuration make of the empty document. -/
def draft (c : Config) : Draft where
  entries := [("dialect", .value (.string (dialectName c.dialect))),
    ("recursion_limit", .value (.integer c.recursionLimit)),
    ("extraction", .table .opened [("max_depth", .value (.integer c.maxDepth))]),
    ("validation", .table .opened [("ambiguous_columns", .value (.string (policyName c.policy)))])]
  opened := ["validation"]

theorem foldlM_add_lines (c : Config) :
    (c.lines.filterMap Prod.snd).foldlM Draft.add {} = some c.draft := rfl

/-- Every setting is found under its name, so no default takes the place of one. -/
theorem ofEntries?_draft (c : Config) : ofEntries? (entriesToToml c.draft.entries) = some c := by
  obtain ⟨dialect, recursionLimit, maxDepth, policy⟩ := c
  cases dialect <;> cases policy <;> rfl

/-- The text that keeps a configuration is read as this configuration. -/
theorem ofText?_of_toText? (h : c.toText? = some text) : ofText? text = some c := by
  have chars := toList_of_toText? h
  have first : (c.lines.flatMap Prod.fst).head? = some 'd' := rfl
  have noMark : text.toList.head? ≠ some '\uFEFF' := by
    rw [chars, first]
    decide
  rw [ofText?, parse?_of_lines (isLine_of_mem_lines (isStorable_of_toText? h)) chars noMark,
    foldlM_add_lines, Option.map_some, Option.bind_some, ofEntries?_draft]

/-! ## Files -/

theorem run_get_bind {α : Type} (f : FileTree → Storage α) (t : FileTree) :
    (get >>= f).run t = (f t).run t := rfl

theorem run_save_of_writeFault? {e : CommandLine.FileError} (h : c.toText? = some text)
    (fault : t.writeFault? path = some e) : (c.save path).run t = (.error (.io e), t) := by
  rw [save, h]
  dsimp only
  rw [run_get_bind, fault]
  rfl

theorem run_save_of_toText? (h : c.toText? = some text) (writable : t.writeFault? path = none) :
    (c.save path).run t = (.ok (), t.write path text) := by
  rw [save, h]
  dsimp only
  rw [run_get_bind, writable]
  rfl

theorem run_save_of_not_isStorable (h : ¬c.isStorable) (path : String) (t : FileTree) :
    (c.save path).run t = (.error .notStorable, t) := by
  rw [save, toText?_eq_none h]
  rfl

theorem run_load (read : t.view.readText path = .ok text) (h : ofText? text = some c) :
    (load path).run t = (.ok c, t) := by
  rw [load, run_get_bind, read]
  dsimp only
  rw [h]
  rfl

/-- A configuration with numbers of at most 63 bits is written as a text that is read as this very
configuration, and it is loaded from the file that was written. Any other one is refused, and no
file changes. -/
theorem save_reads_back (c : Config) (path : String) (t : FileTree) :
    (c.recursionLimit < 0x8000000000000000 ∧ c.maxDepth < 0x8000000000000000 →
      ∃ text, c.toText? = some text ∧ ofText? text = some c ∧
        (t.writeFault? path = none → (c.save path).run t = (.ok (), t.write path text) ∧
          (t.write path text).view.readText path = .ok text ∧
          (load path).run (t.write path text) = (.ok c, t.write path text)) ∧
        ∀ e, t.writeFault? path = some e → (c.save path).run t = (.error (.io e), t)) ∧
    (¬(c.recursionLimit < 0x8000000000000000 ∧ c.maxDepth < 0x8000000000000000) →
      (c.save path).run t = (.error .notStorable, t)) := by
  rw [← isStorable_iff]
  refine ⟨fun storable ↦ ?_, fun large ↦ run_save_of_not_isStorable large path t⟩
  obtain ⟨text, written⟩ := exists_toText?_eq storable
  have back := ofText?_of_toText? written
  refine ⟨text, written, back, fun writable ↦ ?_, fun e ↦ run_save_of_writeFault? written⟩
  have read := FileTree.readText_write writable text
  exact ⟨run_save_of_toText? written writable, read, run_load read back⟩

theorem save_reads_back_sample :
    (∃ text, ({} : Config).toText? = some text ∧ ofText? text = some {} ∧
      (({} : Config).save "c").run {} = (.ok (), FileTree.write {} "c" text) ∧
      (load "c").run (FileTree.write {} "c" text) = (.ok {}, FileTree.write {} "c" text)) ∧
    (({ maxDepth := 0x8000000000000000 } : Config).save "c").run {} =
      (.error .notStorable, {}) := by
  have split : "c".splitOn "/" = ["c"] := by
    rw [String.splitOn, if_neg (by decide), String.splitOnAux.eq_def, if_neg (by decide),
      if_neg (by decide), String.splitOnAux.eq_def, if_pos (by decide)]
    decide
  have names : FileTree.names? "c" = .ok ["c"] := by
    rw [FileTree.names?, if_neg (by decide +kernel), split]
  have writable : FileTree.writeFault? {} "c" = none := by
    rw [FileTree.writeFault?, FileTree.target, names]
    decide +kernel
  obtain ⟨text, written, back, saved, -⟩ := (save_reads_back {} "c" {}).1 (by decide)
  obtain ⟨kept, -, loaded⟩ := saved writable
  exact ⟨⟨text, written, back, kept, loaded⟩,
    (save_reads_back { maxDepth := 0x8000000000000000 } "c" {}).2 (by decide)⟩

end Config

end SqlFootprint
