import SqlFootprint.CommandLine.Files

/-!
# Reading back a file

A text that is written to a tree of files is read back under the path that it was written to: the
directories on the way are still there, and none stands at the place of the file.
-/

namespace SqlFootprint.CommandLine

theorem bind_eq_ok {ε α β : Type} {x : Except ε α} {f : α → Except ε β} {b : β} :
    x >>= f = .ok b ↔ ∃ a, x = .ok a ∧ f a = .ok b := by
  cases x with
  | error e => simp [Bind.bind, Except.bind]
  | ok a => simp [Bind.bind, Except.bind]

theorem Content.text_toUTF8 (text : String) : Content.text (.ok text.toUTF8) = .ok text := by
  have back : String.fromUTF8? text.toUTF8 = some text := dif_pos text.isValidUTF8
  refine bind_eq_ok.2 ⟨_, rfl, ?_⟩
  rw [back]

namespace FileTree

variable {t t' : FileTree} {place d e p names more : List String} {path text name : String}

/-! ## Following names -/

/-- The place that a name leads to from a directory. -/
def enter (place : List String) : String → Except FileError (List String)
  | "" | "." => .ok place
  | ".." => if place.isEmpty then .error .missing else .ok place.dropLast
  | name => .ok (place ++ [name])

theorem fault?_eq_none : t.fault? place = none ↔ t.isDirectory place := by
  unfold fault?
  split
  · simp [*]
  · split <;> simp [*]

theorem follow_cons_eq_ok : t.follow place (name :: names) = .ok d ↔
    t.isDirectory place ∧ ∃ next, enter place name = .ok next ∧ t.follow next names = .ok d := by
  rw [follow.eq_def, ← fault?_eq_none]
  cases t.fault? place with
  | some fault => simp
  | none => fun_cases enter place name <;> simp_all

/-- A place is still reached where there are further directories. -/
theorem follow_of_le (further : ∀ p, t.isDirectory p → t'.isDirectory p)
    (h : t.follow place names = .ok d) : t'.follow place names = .ok d := by
  induction names generalizing place with
  | nil => exact h
  | cons name names ih =>
    obtain ⟨directory, next, enters, follows⟩ := follow_cons_eq_ok.1 h
    exact follow_cons_eq_ok.2 ⟨further place directory, next, enters, ih follows⟩

theorem follow_append (h : t.follow place names = .ok d) (k : t.follow d more = .ok e) :
    t.follow place (names ++ more) = .ok e := by
  induction names generalizing place with
  | nil =>
    cases h
    exact k
  | cons name names ih =>
    obtain ⟨directory, next, enters, follows⟩ := follow_cons_eq_ok.1 h
    exact follow_cons_eq_ok.2 ⟨directory, next, enters, ih follows⟩

theorem enter_of_canNameFile (h : canNameFile name) : enter place name = .ok (place ++ [name]) := by
  unfold enter
  split
  · exact absurd h (by decide)
  · exact absurd h (by decide)
  · exact absurd h (by decide)
  · rfl

/-! ## Writing -/

theorem withoutSlashes_of_ne (h : name ≠ "") :
    withoutSlashes (names ++ [name]) = names ++ [name] := by
  have kept : ¬name.isEmpty := by rwa [String.isEmpty_iff]
  rw [withoutSlashes, List.reverse_append, List.reverse_singleton, List.singleton_append,
    List.dropWhile_cons_of_neg kept, List.reverse_cons, List.reverse_reverse]

/-- Where a file is written: in a directory that is there, under a name for a file, and not in place
of a directory. -/
theorem target_eq_ok (h : t.target path = .ok place) : ∃ names d name,
    names? path = .ok (names ++ [name]) ∧ t.follow [] names = .ok d ∧ t.isDirectory d ∧
      canNameFile name ∧ t.isDirectory (d ++ [name]) = false ∧ place = d ++ [name] := by
  obtain ⟨written, path_names, h⟩ := bind_eq_ok.1 h
  obtain ⟨d, follows, h⟩ := bind_eq_ok.1 h
  have directory : t.fault? d = none := by
    cases fault : t.fault? d with
    | some e =>
      rw [fault] at h
      cases h
    | none => rfl
  rw [directory] at h
  obtain ⟨free, here⟩ : (canNameFile (written.getLastD "") ∧
      t.isDirectory (d ++ [written.getLastD ""]) = false) ∧ place = d ++ [written.getLastD ""] := by
    dsimp only at h
    split at h
    · rename_i free
      rw [Bool.and_eq_true, Bool.not_eq_true'] at free
      exact ⟨free, (Except.ok.inj h).symm⟩
    · cases h
  obtain rfl | ⟨names, name, rfl⟩ := List.eq_nil_or_concat written
  · exact absurd free.1 (by decide)
  · simp only [List.concat_eq_append] at path_names follows free here
    rw [List.getLastD_concat] at free here
    have named : name ≠ "" := by
      rintro rfl
      exact absurd free.1 (by decide)
    rw [withoutSlashes_of_ne named, List.dropLast_concat] at follows
    exact ⟨names, d, name, path_names, follows, fault?_eq_none.1 directory, free.1, free.2, here⟩

theorem write_of_target (h : t.target path = .ok place) : t.write path text =
    { t with files := (place, text.toUTF8) :: t.files.filter (·.1 != place) } := by
  rw [write, h]

theorem isDirectory_iff : t.isDirectory place ↔ place = [] ∨
    (∃ d ∈ t.directories, place <+: d) ∨ ∃ f ∈ t.files, place <+: f.1 ∧ place ≠ f.1 := by
  simp [isDirectory, or_assoc]

/-- The directories of a tree with one more file. -/
theorem isDirectory_write_iff (h : t.target path = .ok place) :
    (t.write path text).isDirectory p ↔ t.isDirectory p ∨ p <+: place ∧ p ≠ place := by
  rw [write_of_target h, isDirectory_iff, isDirectory_iff]
  simp only [List.mem_cons, List.mem_filter, bne_iff_ne]
  constructor
  · rintro (rfl | below | ⟨f, rfl | ⟨mem, -⟩, below⟩)
    · exact .inl (.inl rfl)
    · exact .inl (.inr (.inl below))
    · exact .inr below
    · exact .inl (.inr (.inr ⟨f, mem, below⟩))
  · rintro ((rfl | below | ⟨f, mem, below⟩) | below)
    · exact .inl rfl
    · exact .inr (.inl below)
    · -- A file that is replaced leaves its directories to the one that replaces it.
      by_cases replaced : f.1 = place
      · exact .inr (.inr ⟨_, .inl rfl, replaced ▸ below⟩)
      · exact .inr (.inr ⟨f, .inr ⟨mem, replaced⟩, below⟩)
    · exact .inr (.inr ⟨_, .inl rfl, below⟩)

theorem look_write (h : t.target path = .ok place) :
    (t.write path text).look path = .ok (.file (.ok text.toUTF8)) := by
  obtain ⟨names, d, name, path_names, follows, directory, named, free, rfl⟩ := target_eq_ok h
  have further (p : List String) (directory : t.isDirectory p) :
      (t.write path text).isDirectory p := (isDirectory_write_iff h).2 (.inl directory)
  have reached : (t.write path text).follow [] (names ++ [name]) = .ok (d ++ [name]) :=
    follow_append (follow_of_le further follows)
      (follow_cons_eq_ok.2 ⟨further d directory, _, enter_of_canNameFile named, rfl⟩)
  have noDirectory : ¬(t.write path text).isDirectory (d ++ [name]) := by
    rw [isDirectory_write_iff h]
    simp [free]
  have file : (t.write path text).file? (d ++ [name]) = some text.toUTF8 := by
    rw [write_of_target h, file?, List.lookup_cons_self]
  refine bind_eq_ok.2 ⟨_, path_names, bind_eq_ok.2 ⟨_, reached, ?_⟩⟩
  rw [if_neg noDirectory, file]
  rfl

/-- A text that can be written is read back. -/
theorem readText_write (h : t.writeFault? path = none) (text : String) :
    (t.write path text).view.readText path = .ok text := by
  cases target : t.target path with
  | error e => simp [writeFault?, target] at h
  | ok place => exact bind_eq_ok.2 ⟨_, look_write target, Content.text_toUTF8 text⟩

end FileTree

end SqlFootprint.CommandLine
