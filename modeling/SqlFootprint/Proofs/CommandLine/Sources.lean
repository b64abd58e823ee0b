import Mathlib.Data.List.Forall2
import Mathlib.Data.List.Perm.Basic
import Mathlib.Data.List.Sort
import Mathlib.Data.List.TakeDrop
import Mathlib.Data.String.Basic
import SqlFootprint.CommandLine.Run

/-!
# The sources of an analysis

A path stands for the file that it names, or for the files below the directory that it names: those
with an extension that is `sql` in some case of its letters, in the order of their paths, name by
name. The order in which the directory lists them makes no difference. Links in a directory are not
followed, and what cannot be walked through is passed over.
-/

namespace SqlFootprint.CommandLine

/-! ## Names -/

/-- The name of a file with statements. What starts with its only dot has no extension. -/
def HasSqlExtension (name : String) : Prop :=
  ∃ stem extension, stem ≠ "" ∧ name = stem ++ "." ++ extension ∧ Text.sameName extension "sql"

theorem notMem_dot_of_sameName {extension : String} (h : Text.sameName extension "sql") :
    '.' ∉ extension.toList := by
  intro dot
  have same : extension.toList.map Char.toLower = ['s', 'q', 'l'] := by
    have folded := congrArg String.toList (Text.sameName_iff.1 h)
    simp only [Text.foldAscii, String.toList_map] at folded
    rw [folded]
    decide
  have lowered : '.' ∈ extension.toList.map Char.toLower := List.mem_map.2 ⟨'.', dot, by decide⟩
  rw [same] at lowered
  exact absurd lowered (by decide)

theorem isSqlName_iff {name : String} : isSqlName name ↔ HasSqlExtension name := by
  rw [isSqlName, List.span_eq_takeWhile_dropWhile]
  dsimp only
  rw [Bool.and_eq_true, decide_eq_true_iff]
  constructor
  · rintro ⟨same, long⟩
    have whole := List.takeWhile_append_dropWhile (p := (· != '.')) (l := name.toList.reverse)
    have stops := List.head?_dropWhile_not (· != '.') name.toList.reverse
    cases hd : name.toList.reverse.dropWhile (· != '.') with
    | nil =>
      rw [hd] at long
      cases long
    | cons c stem =>
      rw [hd] at whole stops long
      have dot : c = '.' := by simpa using stops
      refine ⟨.ofList stem.reverse,
        .ofList (name.toList.reverse.takeWhile (· != '.')).reverse, ?_, ?_, same⟩
      · intro empty
        have none := congrArg String.toList empty
        rw [String.toList_ofList] at none
        rw [List.reverse_eq_nil_iff.1 none] at long
        exact absurd long (Nat.lt_irrefl 1)
      · apply String.toList_injective
        have spelled := congrArg List.reverse whole
        rw [List.reverse_reverse, List.reverse_append, List.reverse_cons, dot] at spelled
        simpa using spelled.symm
  · rintro ⟨stem, extension, notEmpty, rfl, same⟩
    have plain : ∀ c ∈ extension.toList.reverse, (c != '.') = true := by
      intro c hc
      have hc := List.mem_reverse.1 hc
      rw [bne_iff_ne]
      rintro rfl
      exact notMem_dot_of_sameName same hc
    have reversed : (stem ++ "." ++ extension).toList.reverse =
        extension.toList.reverse ++ '.' :: stem.toList.reverse := by
      simp
    rw [reversed, List.takeWhile_append_of_pos plain, List.dropWhile_append_of_pos plain]
    have stop : ¬('.' != '.') = true := by decide
    rw [List.takeWhile_cons_of_neg (p := (· != '.')) stop,
      List.dropWhile_cons_of_neg (p := (· != '.')) stop, List.append_nil,
      List.reverse_reverse, String.ofList_toList, List.length_cons, List.length_reverse]
    refine ⟨same, ?_⟩
    have : stem.toList ≠ [] := fun h ↦ notEmpty (String.toList_injective h)
    have := List.length_pos_iff.2 this
    omega

instance (name : String) : Decidable (HasSqlExtension name) :=
  decidable_of_iff _ isSqlName_iff

/-! ## Directories -/

/-- A walk comes to a file with statements. A link is none, whatever its name, and where the walk
cannot go on there is none. -/
def IsSource : Except FileError Entry → Prop
  | .ok ⟨names, .file _⟩ => HasSqlExtension (names.getLastD "")
  | _ => False

instance : DecidablePred IsSource
  | .ok ⟨names, .file _⟩ => inferInstanceAs (Decidable (HasSqlExtension (names.getLastD "")))
  | .ok ⟨_, .directory⟩ | .ok ⟨_, .link⟩ | .ok ⟨_, .special⟩ | .error _ =>
    inferInstanceAs (Decidable False)

/-- A file as a walk comes to it. -/
def found (f : List String × Content) : Except FileError Entry :=
  .ok ⟨f.1, .file f.2⟩

/-- The files with statements that a walk comes to, in the order of their paths. -/
structure IsListing (below : Entries) (listed : List (List String × Content)) : Prop where
  perm : (listed.map found).Perm (below.filter IsSource)
  inOrder : listed.Pairwise fun f g ↦ f.1 ≤ g.1

theorem pathLE_iff {a b : List String} : pathLE a b ↔ a ≤ b := by
  rw [pathLE, Bool.not_eq_true', decide_eq_false_iff_not, not_lt]

/-- The files with statements, as the walk comes to them. -/
def statementFiles (below : Entries) : List (List String × Content) :=
  ((below.filterMap Except.toOption).filterMap Entry.file?).filter fun f ↦
    isSqlName (f.1.getLastD "")

/-- The files with statements, sorted. -/
def listing (below : Entries) : List (List String × Content) :=
  (statementFiles below).mergeSort fun f g ↦ pathLE f.1 g.1

theorem sourcesBelow_eq (directory : String) (below : Entries) :
    sourcesBelow directory below =
      (listing below).map fun f ↦ ⟨joinPath directory f.1, f.2⟩ :=
  rfl

theorem map_found_statementFiles (below : Entries) :
    (statementFiles below).map found = below.filter IsSource := by
  induction below with
  | nil => rfl
  | cons e below ih =>
    rcases e with e | ⟨names, content | _ | _ | _⟩
    · exact ih
    · have step : statementFiles (.ok ⟨names, .file content⟩ :: below) =
          if isSqlName (names.getLastD "") then (names, content) :: statementFiles below
          else statementFiles below := List.filter_cons
      have same : isSqlName (names.getLastD "") = decide (IsSource (.ok ⟨names, .file content⟩)) := by
        rw [Bool.eq_iff_iff, decide_eq_true_iff]
        exact isSqlName_iff
      rw [step, List.filter_cons, same, ← ih, apply_ite (List.map found)]
      rfl
    · exact ih
    · exact ih
    · exact ih

theorem isListing_listing (below : Entries) : IsListing below (listing below) where
  perm := by
    rw [← map_found_statementFiles]
    exact (List.mergeSort_perm _ _).map found
  inOrder := by
    refine (List.pairwise_mergeSort ?_ ?_ _).imp pathLE_iff.1
    · intro f g h first second
      exact pathLE_iff.2 ((pathLE_iff.1 first).trans (pathLE_iff.1 second))
    · intro f g
      rw [Bool.or_eq_true, pathLE_iff, pathLE_iff]
      exact le_total f.1 g.1

/-- The paths of what a walk comes to. -/
def pathsOf (below : Entries) : List (List String) :=
  (below.filterMap Except.toOption).map Entry.names

theorem pathsOf_map_found (listed : List (List String × Content)) :
    pathsOf (listed.map found) = listed.map Prod.fst := by
  induction listed with
  | nil => rfl
  | cons f listed ih =>
    rw [List.map_cons, List.map_cons, ← ih]
    rfl

theorem found_injective : Function.Injective found := by
  rintro ⟨names, content⟩ ⟨names', content'⟩ same
  cases same
  rfl

section

variable {below below' : Entries} {listed listed' : List (List String × Content)}

theorem IsListing.perm_of_perm (h : IsListing below listed) (h' : IsListing below' listed')
    (same : below.Perm below') : listed.Perm listed' := by
  rw [← List.map_perm_map_iff found_injective]
  exact (h.perm.trans (same.filter _)).trans h'.perm.symm

/-- Where no two entries have one path, there is one listing, however the directory lists them. -/
theorem IsListing.eq_of_perm (h : IsListing below listed) (h' : IsListing below' listed')
    (same : below.Perm below') (distinct : (pathsOf below).Nodup) : listed = listed' := by
  have perm := h.perm_of_perm h' same
  have keys : (listed.map Prod.fst).Nodup := by
    rw [← pathsOf_map_found]
    refine ((h.perm.filterMap _).map _).nodup_iff.2 (distinct.sublist ?_)
    exact (List.filter_sublist.filterMap _).map _
  refine List.Perm.eq_of_pairwise ?_ h.inOrder h'.inOrder perm
  intro f g hf hg first second
  exact List.inj_on_of_nodup_map keys hf (perm.symm.subset hg) (le_antisymm first second)

end

/-! ## Other listings -/

/-- Two views of the same files, in which directories may list them in another order. No two entries
of a directory have one path. -/
def Node.Relists : Except FileError Node → Except FileError Node → Prop
  | .ok (.directory below), .ok (.directory below') =>
    below.Perm below' ∧ (pathsOf below).Nodup
  | found, found' => found = found'

/-- The same surroundings, but for the order in which directories list their files. -/
structure Surroundings.Relists (s s' : Surroundings) : Prop where
  look : ∀ path, Node.Relists (s.files.look path) (s'.files.look path)
  writeFault? : s.files.writeFault? = s'.files.writeFault?
  colour : s.colour = s'.colour
  timestamp : s.timestamp = s'.timestamp

namespace Surroundings.Relists

variable {s s' : Surroundings}

/-- What stands at a path is the same or two listings of one directory. -/
theorem cases_look (h : s.Relists s') (path : String) :
    s.files.look path = s'.files.look path ∨
      ∃ below below', s.files.look path = .ok (.directory below) ∧
        s'.files.look path = .ok (.directory below') ∧ below.Perm below' ∧
        (pathsOf below).Nodup := by
  have related := h.look path
  unfold Node.Relists at related
  split at related
  · exact .inr ⟨_, _, ‹_›, ‹_›, related⟩
  · exact .inl related

theorem readText_eq (h : s.Relists s') : s.files.readText = s'.files.readText := by
  funext path
  obtain same | ⟨below, below', look, look', -⟩ := h.cases_look path
  · rw [FileView.readText, FileView.readText, same]
  · rw [FileView.readText, FileView.readText, look, look']
    rfl

theorem exists_eq (h : s.Relists s') (path : String) :
    s.files.exists_ path = s'.files.exists_ path := by
  obtain same | ⟨below, below', look, look', -⟩ := h.cases_look path
  · rw [FileView.exists_, FileView.exists_, same]
  · rw [FileView.exists_, FileView.exists_, look, look']
    rfl

theorem sourcesAt_eq (h : s.Relists s') : s.sourcesAt = s'.sourcesAt := by
  funext path
  obtain same | ⟨below, below', look, look', perm, distinct⟩ := h.cases_look path
  · rw [sourcesAt, sourcesAt, same]
  · have listed : listing below = listing below' :=
      (isListing_listing below).eq_of_perm (isListing_listing below') perm distinct
    rw [sourcesAt, sourcesAt, look, look']
    simp only [sourcesBelow_eq, listed]

theorem config_eq (h : s.Relists s') : s.config = s'.config := by
  funext path verbose
  have at_ : s.configAt = s'.configAt := by
    funext path
    rw [configAt, configAt, h.readText_eq]
  unfold config
  rw [at_, h.exists_eq, h.colour]

theorem schemaAt_eq (h : s.Relists s') : s.schemaAt = s'.schemaAt := by
  funext config path
  rw [schemaAt, schemaAt, h.readText_eq]

theorem report_eq (h : s.Relists s') : s.report = s'.report := by
  funext config verbose o
  have addFile_eq : s.addFile = s'.addFile := by
    funext config verbose schema r f
    rw [addFile, addFile, h.colour]
  unfold report sources
  rw [h.sourcesAt_eq, h.schemaAt_eq, h.colour, h.timestamp, addFile_eq]

theorem deliver_eq (h : s.Relists s') : s.deliver = s'.deliver := by
  funext verbose o r
  have concluded_eq : s.concluded = s'.concluded := by
    funext o log r
    rw [concluded, concluded, h.colour]
  unfold deliver
  rw [h.colour, concluded_eq]

/-- The order in which directories list their files makes no difference to a run. -/
theorem run_eq (h : s.Relists s') (arguments : List String) :
    s.run arguments = s'.run arguments := by
  have command_eq : s.command = s'.command := by
    funext config verbose c
    cases c with
    | analyze o => rw [command, command, h.deliver_eq, h.report_eq]
    | schema path => rw [command, command, h.schemaAt_eq]
    | capabilities => rfl
  have request_eq : s.request = s'.request := by
    funext r
    cases r with
    | help topic => rfl
    | version => rfl
    | run path verbose c => rw [request, request, h.config_eq, command_eq]
  rw [run, run, start, start, request_eq, h.writeFault?]

end Surroundings.Relists

end SqlFootprint.CommandLine
