import SqlFootprint.Proofs.CommandLine.Sources
import SqlFootprint.Proofs.CommandLine.Steps
import SqlFootprint.Proofs.Report.Recount

/-!
# Analyses

An analysis needs its configuration, its schema and its texts. If it lacks any of them it fails and
leaves nothing behind. Otherwise it reports on the text of the command line and then on those of
its paths, in the order of the arguments.
-/

namespace SqlFootprint.CommandLine

/-! ## What an analysis needs -/

namespace Surroundings

variable (s : Surroundings)

/-- The configuration in a file. -/
def HoldsConfig (path : String) (config : Config) : Prop :=
  ∃ text, s.files.readText path = .ok text ∧ Config.ofText? text = some config

/-- The configuration in the file that is named, or else in the usual place, or the default. -/
def Configures (path : Option String) (config : Config) : Prop :=
  match path with
  | some path => s.HoldsConfig path config
  | none =>
    if s.files.exists_ defaultConfigPath then s.HoldsConfig defaultConfigPath config
    else config = {}

/-- The schema that a file of definitions declares, if one is named. -/
def Declares (config : Config) (path : Option String) (schema : Option Schema) : Prop :=
  match path with
  | some path => ∃ text d, s.files.readText path = .ok text ∧ Schema.ofText config text = .ok d ∧
    schema = some d
  | none => schema = none

/-- The texts that a path stands for, each with its own path: one for a file; for a directory those
of its files with statements, in the order of their paths. -/
def Offers (path : String) (texts : List (String × String)) : Prop :=
  match s.files.look path with
  | .ok (.file content) => ∃ text, content.text = .ok text ∧ texts = [(path, text)]
  | .ok (.directory below) => ∃ listed, IsListing below listed ∧
    List.Forall₂ (fun f t ↦ t.1 = joinPath path f.1 ∧ f.2.text = .ok t.2) listed texts
  | .ok (.special _) | .error _ => False

/-- What an analysis needs besides its configuration: a schema if it is to have one, and texts, of
which there must be one at least. -/
structure Supplies (config : Config) (o : AnalyzeOptions) (schema : Option Schema)
    (texts : List (String × String)) : Prop where
  declares : s.Declares config o.schema schema
  offers : ∃ groups, List.Forall₂ s.Offers o.paths groups ∧ texts = groups.flatten
  something : texts ≠ [] ∨ o.sql.isSome

/-! ## Sources -/

/-- A source file with its text. -/
def Reads (f : SourceFile) (t : String × String) : Prop :=
  t.1 = f.path ∧ f.content.text = .ok t.2

end Surroundings

/-- A file that holds a text. -/
def SourceFile.IsReadable (f : SourceFile) : Prop :=
  ∃ text, f.content.text = .ok text

open Surroundings (Reads)

theorem exists_of_forall₂ {α β : Type} {R : α → β → Prop} {l : List α} {m : List β}
    (h : List.Forall₂ R l m) : ∀ a ∈ l, ∃ b, R a b := by
  induction h with
  | nil => exact nofun
  | cons first _ ih => exact List.forall_mem_cons.2 ⟨⟨_, first⟩, ih⟩

theorem exists_reads {files : List SourceFile} (readable : ∀ f ∈ files, f.IsReadable) :
    ∃ texts, List.Forall₂ Reads files texts := by
  induction files with
  | nil => exact ⟨[], .nil⟩
  | cons f fs ih =>
    obtain ⟨⟨text, hf⟩, others⟩ := List.forall_mem_cons.1 readable
    obtain ⟨texts, read⟩ := ih others
    exact ⟨(f.path, text) :: texts, .cons ⟨rfl, hf⟩ read⟩

theorem exists_reads_groups {groups : List (List SourceFile)}
    (readable : ∀ f ∈ groups.flatten, f.IsReadable) :
    ∃ texts, List.Forall₂ (List.Forall₂ Reads) groups texts := by
  induction groups with
  | nil => exact ⟨[], .nil⟩
  | cons g gs ih =>
    rw [List.flatten_cons, List.forall_mem_append] at readable
    obtain ⟨first, read⟩ := exists_reads readable.1
    obtain ⟨texts, others⟩ := ih readable.2
    exact ⟨first :: texts, .cons read others⟩

theorem mapM_eq_ok_iff {α β ε : Type} {f : α → Except ε β} {l : List α} {bs : List β} :
    l.mapM f = .ok bs ↔ List.Forall₂ (fun a b ↦ f a = .ok b) l bs := by
  induction l generalizing bs with
  | nil => simp [Pure.pure, Except.pure, eq_comm]
  | cons a l ih =>
    rw [List.mapM_cons, List.forall₂_cons_left_iff]
    cases ha : f a with
    | error e => simp [Bind.bind, Except.bind]
    | ok b =>
      cases hl : l.mapM f with
      | error e =>
        simp only [hl, reduceCtorEq, false_iff] at ih
        simp [Bind.bind, Except.bind, ih]
      | ok cs =>
        simp only [hl, Except.ok.injEq] at ih
        simp [Bind.bind, Except.bind, ← ih, Pure.pure, Except.pure, eq_comm]

namespace Surroundings

variable {s : Surroundings}

theorem sources_eq_ok_iff {paths : List String} {files : List SourceFile} :
    s.sources paths = .ok files ↔
      ∃ groups, List.Forall₂ (fun p g ↦ s.sourcesAt p = .ok g) paths groups ∧
        files = groups.flatten := by
  simp only [← mapM_eq_ok_iff, sources]
  cases paths.mapM s.sourcesAt with
  | error e => simp [Bind.bind, Except.bind]
  | ok groups => simp [Bind.bind, Except.bind, Pure.pure, Except.pure, eq_comm]

/-- A path offers the texts of its source files. -/
theorem offers_of_sourcesAt {path : String} {files : List SourceFile}
    {texts : List (String × String)} (found : s.sourcesAt path = .ok files)
    (read : List.Forall₂ Reads files texts) : s.Offers path texts := by
  unfold sourcesAt at found
  unfold Offers
  split at found
  · rename_i below look
    rw [look]
    obtain rfl := Except.ok.inj found
    rw [sourcesBelow_eq, List.forall₂_map_left_iff] at read
    exact ⟨_, isListing_listing below, read⟩
  · rename_i content look
    rw [look]
    obtain rfl := Except.ok.inj found
    obtain ⟨⟨path', text⟩, ts, ⟨same, text_eq⟩, rest, rfl⟩ := List.forall₂_cons_left_iff.1 read
    rw [List.forall₂_nil_left_iff] at rest
    subst rest
    obtain rfl : path' = path := same
    exact ⟨text, text_eq, rfl⟩
  · cases found
  · cases found

/-- A path that offers texts has as many source files, all of them readable. -/
theorem Offers.sourcesAt {path : String} {texts : List (String × String)}
    (h : s.Offers path texts) :
    ∃ files, s.sourcesAt path = .ok files ∧ files.length = texts.length ∧
      ∀ f ∈ files, f.IsReadable := by
  unfold Offers at h
  unfold Surroundings.sourcesAt
  split at h
  · rename_i content look
    obtain ⟨text, readable, rfl⟩ := h
    rw [look]
    exact ⟨_, rfl, rfl, List.forall_mem_singleton.2 ⟨text, readable⟩⟩
  · rename_i below look
    obtain ⟨listed, listing, read⟩ := h
    rw [look]
    have perm : (CommandLine.listing below).Perm listed :=
      (isListing_listing below).perm_of_perm listing (.refl below)
    refine ⟨_, rfl, ?_, ?_⟩
    · rw [sourcesBelow_eq, List.length_map, perm.length_eq, read.length_eq]
    · rw [sourcesBelow_eq, List.forall_mem_map]
      intro f hf
      obtain ⟨t, -, text⟩ := exists_of_forall₂ read f (perm.subset hf)
      exact ⟨t.2, text⟩
  · exact h.elim
  · exact h.elim

/-- Paths offer the texts of their source files if all of these can be read. -/
theorem exists_offers_of_sources {paths : List String} {files : List SourceFile}
    (found : s.sources paths = .ok files) (readable : ∀ f ∈ files, f.IsReadable) :
    ∃ groups, List.Forall₂ s.Offers paths groups ∧ List.Forall₂ Reads files groups.flatten := by
  obtain ⟨sources, looked, rfl⟩ := sources_eq_ok_iff.1 found
  obtain ⟨groups, read⟩ := exists_reads_groups readable
  refine ⟨groups, ?_, List.rel_flatten read⟩
  clear found readable
  induction looked generalizing groups with
  | nil =>
    rw [List.forall₂_nil_left_iff.1 read]
    exact .nil
  | cons look _ ih =>
    obtain ⟨texts, rest, first, others, rfl⟩ := List.forall₂_cons_left_iff.1 read
    exact .cons (offers_of_sourcesAt look first) (ih rest others)

theorem exists_sources_of_offers {paths : List String} {groups : List (List (String × String))}
    (h : List.Forall₂ s.Offers paths groups) :
    ∃ files, s.sources paths = .ok files ∧ files.length = groups.flatten.length ∧
      ∀ f ∈ files, f.IsReadable := by
  simp only [sources_eq_ok_iff]
  induction h with
  | nil => exact ⟨[], ⟨[], .nil, rfl⟩, rfl, nofun⟩
  | cons offers _ ih =>
    obtain ⟨first, look, length, readable⟩ := offers.sourcesAt
    obtain ⟨_, ⟨sources, looked, rfl⟩, lengths, readables⟩ := ih
    refine ⟨_, ⟨first :: sources, .cons look looked, rfl⟩, ?_, ?_⟩
    · simp only [List.flatten_cons, List.length_append, length, lengths]
    · exact List.forall_mem_append.2 ⟨readable, readables⟩

/-! ## The parts of an analysis -/

theorem configAt_meets {path : String} {config : Config} (h : s.HoldsConfig path config) :
    (s.configAt path).Meets (· = config) := by
  obtain ⟨text, read, parsed⟩ := h
  unfold configAt
  rw [read]
  dsimp only
  rw [parsed]
  exact Run.meets_pure rfl

theorem configAt_fails {path : String} (h : ∀ config, ¬s.HoldsConfig path config) :
    (s.configAt path).Fails := by
  unfold configAt
  split
  · exact Run.fails_throw _
  · split
    · exact absurd ⟨_, ‹_›, ‹_›⟩ (h _)
    · exact Run.fails_throw _

theorem config_meets {path : Option String} {config : Config} (h : s.Configures path config)
    (verbose : Bool) : (s.config path verbose).Meets (· = config) := by
  have said (c : Config) (same : c = config) : Run.Meets (do
      Run.log verbose (Style.cyan.paint s.colour "Using" ++ " dialect: " ++ dialectTitle c.dialect)
      pure c) (· = config) :=
    (Run.meets_log _ _).bind fun _ _ ↦ Run.meets_pure same
  unfold Configures at h
  unfold Surroundings.config
  split at h
  · exact (configAt_meets h).bind said
  · split at h
    · rename_i there
      dsimp only
      rw [if_pos there]
      exact (configAt_meets h).bind said
    · rename_i absent
      dsimp only
      rw [if_neg absent]
      exact (Run.meets_log _ _).bind fun _ _ ↦
        (Run.meets_pure (P := (· = config)) h.symm).bind said

theorem config_fails {path : Option String} (h : ∀ config, ¬s.Configures path config)
    (verbose : Bool) : (s.config path verbose).Fails := by
  unfold Configures at h
  unfold Surroundings.config
  split at h
  · exact (configAt_fails h).bind _
  · split at h
    · rename_i there
      dsimp only
      rw [if_pos there]
      exact (configAt_fails h).bind _
    · exact absurd rfl (h {})

theorem schemaAt_meets {config : Config} {path : Option String} {schema : Option Schema}
    (h : s.Declares config path schema) :
    Run.Meets (path.mapM fun path ↦ liftM (s.schemaAt config path)) (· = schema) := by
  cases path with
  | none =>
    obtain rfl : schema = none := h
    exact Run.meets_pure rfl
  | some path =>
    obtain ⟨text, d, read, parsed, rfl⟩ := h
    have found : s.schemaAt config path = .ok d := by
      unfold schemaAt
      rw [read]
      dsimp only
      rw [parsed]
    refine (Run.meets_lift found).bind fun d' same ↦ ?_
    exact Run.meets_pure (P := (· = some d)) (congrArg some same)

theorem schemaAt_fails {config : Config} {path : Option String}
    (h : ∀ schema, ¬s.Declares config path schema) :
    Run.Fails (path.mapM fun path ↦ (liftM (s.schemaAt config path) : Run Schema)) := by
  cases path with
  | none => exact absurd rfl (h none)
  | some path =>
    obtain ⟨failure, failed⟩ : ∃ e, s.schemaAt config path = .error e := by
      unfold schemaAt
      split
      · exact ⟨_, rfl⟩
      · split
        · exact absurd ⟨_, _, ‹_›, ‹_›, rfl⟩ (h (some _))
        · exact ⟨_, rfl⟩
    exact (Run.fails_lift failed).bind _

end Surroundings

/-! ## Reports -/

/-- The texts of an analysis, first the one on the command line. -/
def AnalyzeOptions.inputs (o : AnalyzeOptions) (schema : Option Schema)
    (texts : List (String × String)) : List Input :=
  (o.sql.toList.map fun text ↦ ⟨schema, inlineSource, text⟩) ++
    texts.map fun t ↦ ⟨schema, t.1, t.2⟩

namespace Surroundings

variable {s : Surroundings}

/-- The report on the texts of an analysis. -/
def reportOn (s : Surroundings) (config : Config) (o : AnalyzeOptions) (schema : Option Schema)
    (texts : List (String × String)) : Report :=
  (schema.elim (.empty s.timestamp) (Report.empty s.timestamp).withSchema).addInputs config
    (o.inputs schema texts)

theorem addFile_meets (config : Config) (verbose : Bool) (schema : Option Schema) (r : Report)
    {f : SourceFile} {t : String × String} (read : Reads f t) :
    (s.addFile config verbose schema r f).Meets (· = r.addSource config schema t.1 t.2) := by
  obtain ⟨same, text⟩ := read
  refine (Run.meets_log _ _).bind fun _ _ ↦ ?_
  rw [text, same]
  exact Run.meets_pure rfl

theorem addFile_fails (config : Config) (verbose : Bool) (schema : Option Schema) (r : Report)
    {f : SourceFile} (unreadable : ¬f.IsReadable) :
    (s.addFile config verbose schema r f).Fails := by
  refine (Run.meets_log _ _).bind_fails fun _ _ ↦ ?_
  cases text : f.content.text with
  | error e => exact Run.fails_throw _
  | ok text' => exact absurd ⟨text', text⟩ unreadable

theorem addFiles_meets (config : Config) (verbose : Bool) (schema : Option Schema)
    {files : List SourceFile} {texts : List (String × String)}
    (read : List.Forall₂ Reads files texts) (r : Report) :
    (files.foldlM (s.addFile config verbose schema) r).Meets
      (· = r.addInputs config (texts.map fun t ↦ ⟨schema, t.1, t.2⟩)) := by
  induction read generalizing r with
  | nil => exact Run.meets_pure rfl
  | cons first _ ih =>
    rw [List.foldlM_cons]
    refine (addFile_meets config verbose schema r first).bind ?_
    rintro _ rfl
    exact ih _

/-- The first file that cannot be read ends the analysis. -/
theorem addFiles_fails (config : Config) (verbose : Bool) (schema : Option Schema)
    {files : List SourceFile} (unreadable : ∃ f ∈ files, ¬f.IsReadable) (r : Report) :
    Run.Fails (files.foldlM (s.addFile config verbose schema) r) := by
  induction files generalizing r with
  | nil =>
    obtain ⟨f, hf, -⟩ := unreadable
    cases hf
  | cons f fs ih =>
    rw [List.foldlM_cons]
    by_cases readable : f.IsReadable
    · obtain ⟨text, hf⟩ := readable
      have others : ∃ g ∈ fs, ¬g.IsReadable := by
        obtain ⟨g, hg, unreadable⟩ := unreadable
        obtain rfl | later := List.mem_cons.1 hg
        · exact absurd ⟨text, hf⟩ unreadable
        · exact ⟨g, later, unreadable⟩
      have read : Reads f (f.path, text) := ⟨rfl, hf⟩
      exact (addFile_meets config verbose schema r read).bind_fails fun r' _ ↦ ih others r'
    · exact (addFile_fails config verbose schema r readable).bind _

/-- The text of the command line comes before the files. -/
theorem addFiles_meets_inputs (config : Config) (verbose : Bool) (o : AnalyzeOptions)
    (schema : Option Schema) {files : List SourceFile} {texts : List (String × String)}
    (read : List.Forall₂ Reads files texts) (r : Report) :
    Run.Meets
      (match o.sql with
      | some text => files.foldlM (s.addFile config verbose schema)
          (r.addSource config schema inlineSource text)
      | _ => files.foldlM (s.addFile config verbose schema) r)
      (· = r.addInputs config (o.inputs schema texts)) := by
  obtain ⟨_, sql, _, _, _⟩ := o
  cases sql with
  | none => exact addFiles_meets config verbose schema read r
  | some text => exact addFiles_meets config verbose schema read _

theorem addFiles_fails_inputs (config : Config) (verbose : Bool) (o : AnalyzeOptions)
    (schema : Option Schema) {files : List SourceFile}
    (unreadable : ∃ f ∈ files, ¬f.IsReadable) (r : Report) :
    Run.Fails
      (match o.sql with
      | some text => files.foldlM (s.addFile config verbose schema)
          (r.addSource config schema inlineSource text)
      | _ => files.foldlM (s.addFile config verbose schema) r) := by
  split
  · exact addFiles_fails config verbose schema unreadable _
  · exact addFiles_fails config verbose schema unreadable r

theorem not_idle {files : List SourceFile} {o : AnalyzeOptions}
    (something : files ≠ [] ∨ o.sql.isSome) : ¬(files.isEmpty && o.sql.isNone) = true := by
  cases files <;> cases ho : o.sql <;> simp [ho] at something ⊢

theorem report_meets {config : Config} {o : AnalyzeOptions} {schema : Option Schema}
    {files : List SourceFile} {texts : List (String × String)} (verbose : Bool)
    (found : s.sources o.paths = .ok files) (something : files ≠ [] ∨ o.sql.isSome)
    (declares : s.Declares config o.schema schema) (read : List.Forall₂ Reads files texts) :
    (s.report config verbose o).Meets (· = s.reportOn config o schema texts) := by
  unfold report
  refine (Run.meets_lift found).bind fun files' same ↦ ?_
  rw [same]
  dsimp only
  rw [if_neg (not_idle something)]
  refine (schemaAt_meets declares).bind fun schema' same ↦ ?_
  rw [same]
  cases schema with
  | none => exact addFiles_meets_inputs config verbose o none read _
  | some d =>
    exact (Run.meets_log _ _).bind fun _ _ ↦ addFiles_meets_inputs config verbose o (some d) read _

theorem report_fails_of_unreadable {config : Config} {o : AnalyzeOptions} {schema : Option Schema}
    {files : List SourceFile} (verbose : Bool) (found : s.sources o.paths = .ok files)
    (something : files ≠ [] ∨ o.sql.isSome) (declares : s.Declares config o.schema schema)
    (unreadable : ∃ f ∈ files, ¬f.IsReadable) : (s.report config verbose o).Fails := by
  unfold report
  refine (Run.meets_lift found).bind_fails fun files' same ↦ ?_
  rw [same]
  dsimp only
  rw [if_neg (not_idle something)]
  refine (schemaAt_meets declares).bind_fails fun schema' same ↦ ?_
  rw [same]
  cases schema with
  | none => exact addFiles_fails_inputs config verbose o none unreadable _
  | some d =>
    exact (Run.meets_log _ _).bind_fails fun _ _ ↦
      addFiles_fails_inputs config verbose o (some d) unreadable _

theorem report_fails_of_undeclared {config : Config} {o : AnalyzeOptions} {files : List SourceFile}
    (verbose : Bool) (found : s.sources o.paths = .ok files)
    (something : files ≠ [] ∨ o.sql.isSome) (undeclared : ∀ schema, ¬s.Declares config o.schema schema) :
    (s.report config verbose o).Fails := by
  unfold report
  refine (Run.meets_lift found).bind_fails fun files' same ↦ ?_
  rw [same]
  dsimp only
  rw [if_neg (not_idle something)]
  exact (schemaAt_fails undeclared).bind _

theorem report_fails_of_idle {config : Config} {o : AnalyzeOptions} {files : List SourceFile}
    (verbose : Bool) (found : s.sources o.paths = .ok files)
    (nothing : ¬(files ≠ [] ∨ o.sql.isSome)) : (s.report config verbose o).Fails := by
  have idle : (files.isEmpty && o.sql.isNone) = true := by
    simp only [not_or, not_not, Bool.not_eq_true, Option.isSome_eq_false_iff] at nothing
    rw [nothing.1, nothing.2]
    rfl
  unfold report
  refine (Run.meets_lift found).bind_fails fun files' same ↦ ?_
  rw [same]
  dsimp only
  rw [if_pos idle]
  exact (Run.fails_throw _).bind _

/-- What is offered is offered by the source files, so these can be read. -/
theorem Supplies.readable {config : Config} {o : AnalyzeOptions} {schema : Option Schema}
    {texts : List (String × String)} {files : List SourceFile}
    (h : s.Supplies config o schema texts) (found : s.sources o.paths = .ok files) :
    files.length = texts.length ∧ ∀ f ∈ files, f.IsReadable := by
  obtain ⟨groups, offers, rfl⟩ := h.offers
  obtain ⟨files', found', same⟩ := exists_sources_of_offers offers
  rw [found] at found'
  cases found'
  exact same

/-- An analysis that is supplied reports on what it is supplied with; otherwise it fails. -/
theorem report_meets_or_fails (config : Config) (verbose : Bool) (o : AnalyzeOptions) :
    (∃ schema texts, s.Supplies config o schema texts ∧
      (s.report config verbose o).Meets (· = s.reportOn config o schema texts)) ∨
    (∀ schema texts, ¬s.Supplies config o schema texts) ∧ (s.report config verbose o).Fails := by
  cases found : s.sources o.paths with
  | error e =>
    refine .inr ⟨fun schema texts supplied ↦ ?_, (Run.fails_lift found).bind _⟩
    obtain ⟨groups, offers, -⟩ := supplied.offers
    obtain ⟨files, found', -⟩ := exists_sources_of_offers offers
    rw [found] at found'
    cases found'
  | ok files =>
    by_cases something : files ≠ [] ∨ o.sql.isSome
    · by_cases declared : ∃ schema, s.Declares config o.schema schema
      · obtain ⟨schema, declares⟩ := declared
        by_cases readable : ∀ f ∈ files, f.IsReadable
        · obtain ⟨groups, offers, read⟩ := exists_offers_of_sources found readable
          refine .inl ⟨schema, groups.flatten, ⟨declares, ⟨groups, offers, rfl⟩, ?_⟩,
            report_meets verbose found something declares read⟩
          refine something.imp_left fun notEmpty empty ↦ notEmpty ?_
          rwa [empty, List.forall₂_nil_right_iff] at read
        · refine .inr ⟨fun _ _ supplied ↦ readable (supplied.readable found).2, ?_⟩
          simp only [not_forall] at readable
          obtain ⟨f, hf, unreadable⟩ := readable
          exact report_fails_of_unreadable verbose found something declares ⟨f, hf, unreadable⟩
      · exact .inr ⟨fun schema _ supplied ↦ declared ⟨schema, supplied.declares⟩,
          report_fails_of_undeclared verbose found something (not_exists.1 declared)⟩
    · refine .inr ⟨fun schema texts supplied ↦ something ?_,
        report_fails_of_idle verbose found something⟩
      refine supplied.something.imp_left fun notEmpty empty ↦ notEmpty ?_
      have none := (supplied.readable found).1
      rw [empty] at none
      exact List.length_eq_zero_iff.1 none.symm

end Surroundings

/-! ## The end of an analysis -/

deriving instance DecidableEq for AnalyzeOptions, Command, Request

/-- The footprints that a report has of a text: those of its statements, as a schema judges them. A
text that cannot be read has none. -/
def statementsOf (config : Config) (schema : Option Schema) (text : String) : List Footprint :=
  match Footprint.ofAll config text with
  | .ok footprints => footprints.map fun f ↦ (f.judgedBy config.policy schema).1
  | .error _ => []

theorem footprints_addition (config : Config) (i : Input) :
    (i.addition config).footprints = statementsOf config i.schema i.text := by
  have adds := i.adds_addition config
  unfold Input.Adds at adds
  unfold statementsOf Footprint.ofAll
  cases read : Source.read config i.text with
  | error e =>
    rw [read] at adds
    rw [adds.1]
    rfl
  | ok source =>
    rw [read] at adds
    rw [adds.2.footprints, List.map_map]
    rfl

/-- A run that fails says so, prints nothing and writes no file. All that it may leave is the
beginning of a file. -/
structure Outcome.IsFailure (outcome : Outcome) (torn : Option (String × ByteArray)) : Prop where
  code : outcome.code ≠ 0
  stdout : outcome.stdout = ""
  written : outcome.written = none
  torn : outcome.torn = torn

theorem Outcome.isFailure_ofFailure (log : String) (e : Failure)
    (torn : Option (String × ByteArray)) : { ofFailure log e with torn }.IsFailure torn :=
  ⟨Nat.one_ne_zero, rfl, rfl, rfl⟩

namespace Surroundings

variable (s : Surroundings)

/-- The end of a run that delivers a report: it is written to the file for it, or else printed
unless a summary is. The run counts as a success exactly if no diagnostic is an error. -/
structure Delivers (o : AnalyzeOptions) (r : Report) (outcome : Outcome) : Prop where
  written : outcome.written = o.output.map fun path ↦ (path, r.toText)
  torn : outcome.torn = none
  stdout : outcome.stdout =
    if o.summary then reportText s.colour r else if o.output.isNone then r.toText ++ "\n" else ""
  code : outcome.code = 0 ↔ ∀ d ∈ r.diagnostics, d.severity ≠ .error

variable {s}

theorem isCounted_reportOn (config : Config) (o : AnalyzeOptions) (schema : Option Schema)
    (texts : List (String × String)) : (s.reportOn config o schema texts).IsCounted := by
  rw [reportOn, Report.addInputs_eq]
  refine Report.IsCounted.add ?_ _
  cases schema with
  | none => exact Report.isCounted_empty _
  | some d => exact (Report.isCounted_empty _).withSchema d

theorem statements_reportOn (config : Config) (o : AnalyzeOptions) (schema : Option Schema)
    (texts : List (String × String)) :
    (s.reportOn config o schema texts).statements =
      o.sql.toList.flatMap (statementsOf config schema) ++
        texts.flatMap fun t ↦ statementsOf config schema t.2 := by
  have blank : (schema.elim (.empty s.timestamp)
      (Report.empty s.timestamp).withSchema).statements = [] := by
    cases schema <;> rfl
  rw [reportOn, Report.addInputs_eq, Report.add, blank, List.nil_append, Addition.join,
    List.flatMap_map]
  simp only [footprints_addition, AnalyzeOptions.inputs, List.flatMap_append, List.flatMap_map]

theorem delivers_concluded (o : AnalyzeOptions) (log : String) {r : Report} (h : r.IsCounted) :
    s.Delivers o r (s.concluded o log r) where
  written := rfl
  torn := rfl
  stdout := rfl
  code := by
    have errors := h.hasErrors_iff
    unfold concluded
    cases hr : r.hasErrors with
    | true =>
      obtain ⟨d, hd, error⟩ := errors.1 hr
      exact iff_of_false Nat.one_ne_zero fun none ↦ none d hd error
    | false =>
      rw [hr] at errors
      exact iff_of_true rfl fun d hd error ↦ Bool.false_ne_true (errors.2 ⟨d, hd, error⟩)

/-- A report is delivered, unless there is a file for it that cannot be written. That file stays as
it was if it cannot be opened, or else is left with the beginning of the report. -/
def Concludes (s : Surroundings) (o : AnalyzeOptions) (r : Report) (outcome : Outcome) : Prop :=
  match o.output.bind fun path ↦ (s.files.writeFault? path).map (path, ·) with
  | some (path, fault) =>
    outcome.IsFailure (fault.written.map fun n ↦ (path, r.toText.toUTF8.extract 0 n))
  | none => s.Delivers o r outcome

theorem deliver_meets (verbose : Bool) (o : AnalyzeOptions) {r : Report} (h : r.IsCounted) :
    (s.deliver verbose o r).Meets fun step ↦
      s.Concludes o r (step.finish s.files.writeFault?) := by
  intro log
  unfold Concludes deliver
  cases output : o.output with
  | none => exact ⟨_, log, rfl, delivers_concluded o log h⟩
  | some path =>
    refine ⟨_, log, rfl, ?_⟩
    simp only [Option.bind_some, Step.finish]
    cases s.files.writeFault? path with
    | none => exact delivers_concluded o _ h
    | some fault => exact Outcome.isFailure_ofFailure log _ _

/-- How an analysis ends: it is not supplied and fails, or it comes to the report on what it is
supplied with, which has the statements of the text on the command line and then those of the texts
that its paths offer. -/
def AllOrNothing (s : Surroundings) (path : Option String) (o : AnalyzeOptions)
    (outcome : Outcome) : Prop :=
  ((¬∃ config schema texts, s.Configures path config ∧ s.Supplies config o schema texts) ∧
    outcome.IsFailure none) ∨
  ∃ config schema texts, s.Configures path config ∧ s.Supplies config o schema texts ∧
    (s.reportOn config o schema texts).statements =
      o.sql.toList.flatMap (statementsOf config schema) ++
        texts.flatMap (fun t ↦ statementsOf config schema t.2) ∧
    s.Concludes o (s.reportOn config o schema texts) outcome

theorem configures_unique {path : Option String} {config config' : Config}
    (h : s.Configures path config) (h' : s.Configures path config') : config = config' := by
  have holds {p : String} (h : s.HoldsConfig p config) (h' : s.HoldsConfig p config') :
      config = config' := by
    obtain ⟨text, read, parsed⟩ := h
    obtain ⟨text', read', parsed'⟩ := h'
    rw [read] at read'
    cases read'
    rw [parsed] at parsed'
    exact Option.some.inj parsed'
  unfold Configures at h h'
  split at h
  · exact holds h h'
  · split at h
    · rename_i there
      rw [if_pos there] at h'
      exact holds h h'
    · rename_i absent
      rw [if_neg absent] at h'
      rw [h, h']

/-- An analysis leaves either a failure or its report, whatever it finds. -/
theorem allOrNothing_run (s : Surroundings) {arguments : List String} {path : Option String}
    {verbose : Bool} {o : AnalyzeOptions}
    (asked : Request.ofArguments? arguments = some (.run path verbose (.analyze o))) :
    s.AllOrNothing path o (s.run arguments) := by
  have failed {x : Run Step} (h : x.Fails) :
      (x.step.finish s.files.writeFault?).IsFailure none := by
    obtain ⟨log, e, hx⟩ := h.step
    rw [hx]
    exact Outcome.isFailure_ofFailure log e none
  have started : s.start arguments = Run.step (do
      let config ← s.config path verbose
      s.deliver verbose o (← s.report config verbose o)) := by
    rw [start, asked]
    rfl
  rw [run, started]
  by_cases configured : ∃ config, s.Configures path config
  · obtain ⟨config, configures⟩ := configured
    have first := config_meets configures verbose
    obtain ⟨schema, texts, supplies, reports⟩ | ⟨unsupplied, fails⟩ :=
      s.report_meets_or_fails config verbose o
    · refine .inr ⟨config, schema, texts, configures, supplies,
        statements_reportOn config o schema texts, ?_⟩
      have delivered := deliver_meets (s := s) verbose o
        (isCounted_reportOn (s := s) config o schema texts)
      refine Run.Meets.step (P := fun step ↦ s.Concludes o _ (step.finish s.files.writeFault?))
        (first.bind fun config' same ↦ ?_)
      rw [same]
      refine reports.bind fun r same ↦ ?_
      rw [same]
      exact delivered
    · refine .inl ⟨?_, failed (first.bind_fails fun config' same ↦ ?_)⟩
      · rintro ⟨config', schema, texts, configures', supplies⟩
        rw [← configures_unique configures configures'] at supplies
        exact unsupplied schema texts supplies
      · rw [same]
        exact fails.bind _
  · refine .inl ⟨?_, failed ((config_fails (not_exists.1 configured) verbose).bind _)⟩
    rintro ⟨config, -, -, configures, -⟩
    exact configured ⟨config, configures⟩

/-- An analysis that lacks something or cannot write its report leaves nothing but a failure, and
perhaps the beginning of a file. Any other delivers its report, with the statements in the order of
what they come from, and is a success exactly if no diagnostic is an error. The order in which
directories list their files makes no difference. -/
theorem run_analyze_allOrNothing (s : Surroundings) {arguments : List String}
    {path : Option String} {verbose : Bool} {o : AnalyzeOptions}
    (asked : Request.ofArguments? arguments = some (.run path verbose (.analyze o))) :
    s.AllOrNothing path o (s.run arguments) ∧
      ∀ s', s.Relists s' → s'.run arguments = s.run arguments :=
  ⟨s.allOrNothing_run asked, fun _ h ↦ (h.run_eq arguments).symm⟩

/-- A file, and a directory with a link and a directory that cannot be read. There is no directory `d`
to write to and no room for a file `full.json`. -/
def small : Surroundings where
  files :=
    { look := fun path ↦
        if path == "q.sql" then .ok (.file (.ok "SELECT a FROM t".toUTF8))
        else if path == "src" then .ok (.directory [.ok ⟨["link.sql"], .link⟩,
          .ok ⟨["locked"], .directory⟩, .error (.other "Permission denied (os error 13)")])
        else .error .missing
      writeFault? := fun path ↦
        if path == "d/out.json" then some { error := .missing }
        else if path == "full.json" then
          some { error := .other "No space left on device (os error 28)", written := some 1 }
        else none }
  colour := false
  timestamp := ""

theorem run_analyze_allOrNothing_sample :
    let arguments := ["analyze", "--sql", "SELECT 1", "-o", "out.json", "src", "q.sql"]
    let o : AnalyzeOptions :=
      { paths := ["src", "q.sql"], sql := "SELECT 1", output := "out.json" }
    Request.ofArguments? arguments = some (.run none false (.analyze o)) ∧
      small.AllOrNothing none o (small.run arguments) ∧ (small.run arguments).code = 0 := by
  intro arguments o
  have asked : Request.ofArguments? arguments = some (.run none false (.analyze o)) := by
    decide +kernel
  exact ⟨asked, (run_analyze_allOrNothing small asked).1, by decide +kernel⟩

/-- Nothing that an analysis needs is missing and nothing is wrong with the text, but the report
cannot be written: the run does not count as a success, and if the writing breaks off, the file is
not as it was. In a directory a link and what is below a directory that cannot be read are passed
over, and the run counts as a success. -/
theorem run_analyze_exceptions :
    (let arguments := ["analyze", "--sql", "SELECT 1", "-o", "d/out.json"]
    let o : AnalyzeOptions := { sql := "SELECT 1", output := "d/out.json" }
    Request.ofArguments? arguments = some (.run none false (.analyze o)) ∧
      small.Configures none {} ∧ small.Supplies {} o none [] ∧
      (small.reportOn {} o none []).diagnostics = [] ∧ (small.run arguments).code = 1) ∧
    (small.run ["analyze", "--sql", "SELECT 1", "-o", "full.json"]).torn =
      some ("full.json", "\x7b".toUTF8) ∧
    (small.sources ["src"]).toOption.map (·.map SourceFile.path) = some [] ∧
    (small.run ["analyze", "--sql", "SELECT 1", "src"]).code = 0 := by
  have configures : small.Configures none {} := by
    have absent : small.files.exists_ defaultConfigPath = false := by decide +kernel
    rw [Configures, absent]
    exact rfl
  refine ⟨?_, by decide +kernel, by decide +kernel, by decide +kernel⟩
  intro arguments o
  exact ⟨by decide +kernel, configures, ⟨rfl, ⟨[], .nil, rfl⟩, .inr rfl⟩, by decide +kernel,
    by decide +kernel⟩

end Surroundings

end SqlFootprint.CommandLine
