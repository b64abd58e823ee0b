import Mathlib.Data.List.Forall2
import SqlFootprint.Proofs.Schema.Insertion

/-!
# Tables as they are declared

A schema keeps of each table what the last statement says that declares it, column by column.
Whether a column is a key, and whether it may be null, is said by its own options and by the primary
keys of the table. In which order these are written makes no difference, nor does an option that
says that a column may be null: a column of a primary key is never null.
-/

namespace SqlFootprint

/-- The last item that fits is followed by items that do not. -/
theorem findRev?_eq_some_iff_append {α : Type} {p : α → Bool} {l : List α} {a : α} :
    l.findRev? p = some a ↔
      p a ∧ ∃ before after, l = before ++ a :: after ∧ ∀ b ∈ after, ¬p b := by
  rw [List.findRev?_eq_find?_reverse, List.find?_eq_some_iff_append]
  refine and_congr_right fun _ ↦ ⟨?_, ?_⟩
  · rintro ⟨front, back, split, others⟩
    refine ⟨back.reverse, front.reverse, ?_, fun b hb ↦ ?_⟩
    · rw [← List.reverse_reverse l, split]
      simp
    · simpa using others b (List.mem_reverse.1 hb)
  · rintro ⟨before, after, rfl, others⟩
    refine ⟨after.reverse, before.reverse, by simp, fun b hb ↦ ?_⟩
    simpa using others b (List.mem_reverse.1 hb)

theorem findRev?_filterMap {α β : Type} (f : α → Option β) (p : β → Bool) (l : List α) :
    (l.filterMap f).findRev? p = (l.findRev? fun a ↦ (f a).any p).bind f := by
  rw [List.findRev?_eq_find?_reverse, List.findRev?_eq_find?_reverse, ← List.filterMap_reverse,
    List.find?_filterMap]

/-- Some item fits if one of the items that fit is there. -/
theorem any_iff_exists_mem {α β : Type} {l : List β} {p : β → Bool} {f : α → β}
    (fits : ∀ b, p b ↔ ∃ a, f a = b) : l.any p ↔ ∃ a, f a ∈ l := by
  rw [List.any_eq_true]
  constructor
  · rintro ⟨b, hb, h⟩
    obtain ⟨a, rfl⟩ := (fits b).1 h
    exact ⟨a, hb⟩
  · rintro ⟨a, ha⟩
    exact ⟨f a, ha, (fits _).2 ⟨a, rfl⟩⟩

/-! ## What a statement declares -/

namespace Sql

/-- Whether an option says that a column may be null. -/
def ColumnOption.isNull : ColumnOption → Bool
  | .other [.text "NULL"] => true
  | _ => false

/-- The name of the table that is declared, without the names before it. -/
def CreateTable.tableName (c : CreateTable) : String :=
  (c.name.getLast?.map Ident.text).getD ""

theorem ObjectName.toTableUse_eq (name : ObjectName) (aliasName : Option String) :
    name.toTableUse aliasName =
      ⟨(name.getLast?.map Ident.text).getD "", aliasName,
        name.dropLast.getLast?.map Ident.text⟩ := by
  obtain rfl | ⟨names, table, rfl⟩ := List.eq_nil_or_concat name
  · rfl
  · obtain rfl | ⟨names, schema, rfl⟩ := List.eq_nil_or_concat names
    · rfl
    · simp [toTableUse]

end Sql

open Sql (ColumnDef CreateTable ColumnOption TableConstraint Statement)

/-- A column as a statement declares it. -/
structure SchemaColumn.IsDeclaredBy (column : SchemaColumn) (c : CreateTable) (d : ColumnDef) :
    Prop where
  name : column.name = d.name.text
  type : column.type = d.type.canonical
  primaryKey : column.primaryKey ↔
    (∃ tail, ColumnOption.primaryKey tail ∈ d.options.map Prod.snd) ∨
      ∃ before names after, TableConstraint.primaryKey before names after ∈ c.constraints ∧
        ∃ i ∈ names, Text.lower i.text = Text.lower d.name.text
  nullable : column.nullable ↔
    ¬column.primaryKey ∧ ColumnOption.notNull ∉ d.options.map Prod.snd
  foreignKey : column.foreignKey ↔
    ∃ parts, ColumnOption.references parts ∈ d.options.map Prod.snd

/-- A table as a statement declares it, with its columns in their order. -/
structure SchemaTable.IsDeclaredBy (t : SchemaTable) (c : CreateTable) : Prop where
  name : t.name = c.tableName
  schema : t.schema = c.name.dropLast.getLast?.map Sql.Ident.text
  columns : List.Forall₂ (fun column d ↦ column.IsDeclaredBy c d) t.columns c.columns

/-! ## Columns -/

namespace SchemaColumn

variable {column : SchemaColumn} {c : CreateTable} {d : ColumnDef}

theorem mem_keys_iff {key : String} :
    key ∈ c.keys ↔ ∃ before names after,
      TableConstraint.primaryKey before names after ∈ c.constraints ∧
        ∃ i ∈ names, Text.lower i.text = key := by
  rw [CreateTable.keys, List.mem_flatMap]
  constructor
  · rintro ⟨constraint, declared, named⟩
    cases constraint with
    | primaryKey before names after =>
      exact ⟨before, names, after, declared, List.mem_map.1 named⟩
    | other parts => cases named
  · rintro ⟨before, names, after, declared, named⟩
    exact ⟨_, declared, List.mem_map.2 named⟩

theorem isDeclaredBy_ofDefinition (c : CreateTable) (d : ColumnDef) :
    (ofDefinition c.keys d).IsDeclaredBy c d := by
  refine ⟨rfl, rfl, ?_, ?_, ?_⟩
  · change (c.keys.contains (Text.lower d.name.text) || List.any _ _) = true ↔ _
    rw [Bool.or_eq_true, List.contains_iff_mem, mem_keys_iff, or_comm]
    refine or_congr (any_iff_exists_mem fun o ↦ ?_) Iff.rfl
    cases o <;> simp
  · change (!List.any _ _ && !(ofDefinition c.keys d).primaryKey) = true ↔ _
    rw [Bool.and_eq_true, Bool.not_eq_true', Bool.not_eq_true', ← Bool.not_eq_true,
      ← Bool.not_eq_true, and_comm, ← exists_const Unit (b := ColumnOption.notNull ∈ _)]
    refine and_congr Iff.rfl (not_congr (any_iff_exists_mem fun o ↦ ?_))
    cases o <;> simp
  · refine any_iff_exists_mem fun o ↦ ?_
    cases o <;> simp

/-- What a statement says of a column leaves nothing open. -/
theorem IsDeclaredBy.eq_ofDefinition (h : column.IsDeclaredBy c d) :
    column = ofDefinition c.keys d := by
  have built := isDeclaredBy_ofDefinition c d
  have primaryKey := Bool.eq_iff_iff.2 (h.primaryKey.trans built.primaryKey.symm)
  have nullable : column.nullable = (ofDefinition c.keys d).nullable := by
    rw [Bool.eq_iff_iff, h.nullable, built.nullable, primaryKey]
  have foreignKey := Bool.eq_iff_iff.2 (h.foreignKey.trans built.foreignKey.symm)
  obtain ⟨name, type, -, -, -⟩ := h
  cases column
  subst name type primaryKey nullable foreignKey
  rfl

end SchemaColumn

/-! ## Tables -/

namespace SchemaTable

variable {t : SchemaTable} {c : CreateTable}

theorem isDeclaredBy_iff : t.IsDeclaredBy c ↔ t = c.toSchemaTable := by
  have table := c.name.toTableUse_eq none
  constructor
  · rintro ⟨name, schema, columns⟩
    have built : t.columns = c.columns.map (SchemaColumn.ofDefinition c.keys) := by
      rw [← List.forall₂_eq_eq_eq, List.forall₂_map_right_iff]
      exact columns.imp fun _ _ h ↦ h.eq_ofDefinition
    rw [CreateTable.toSchemaTable, table, ← built]
    cases t
    subst name schema
    rfl
  · rintro rfl
    refine ⟨?_, ?_, ?_⟩
    · rw [CreateTable.toSchemaTable, table]
      rfl
    · rw [CreateTable.toSchemaTable, table]
    · refine List.forall₂_map_left_iff.2 (List.forall₂_same.2 fun d _ ↦ ?_)
      exact SchemaColumn.isDeclaredBy_ofDefinition c d

theorem key_toSchemaTable (c : CreateTable) : c.toSchemaTable.key = Text.lower c.tableName :=
  congrArg Text.lower (isDeclaredBy_iff.2 rfl).name

end SchemaTable

namespace Schema

/-- The tables of a schema are those that statements declare, each by the last statement that
declares one of its name. -/
theorem mem_details_iff {statements : List Statement} {t : SchemaTable} :
    t ∈ (ofStatements statements).details ↔
      ∃ before c after, statements = before ++ .createTable c :: after ∧
        (∀ d, .createTable d ∈ after → Text.lower d.tableName ≠ Text.lower c.tableName) ∧
        t.IsDeclaredBy c := by
  have listed : t ∈ (ofStatements statements).details ↔
      (statements.findRev? fun s ↦ s.table?.any (·.key == t.key)).bind Statement.table? =
        some t := by
    rw [ofStatements_eq, ← findRev?_filterMap, ← find?_details, find?_details_eq_some_iff,
      and_iff_left rfl]
  rw [listed, Option.bind_eq_some_iff]
  constructor
  · rintro ⟨s, last, declares⟩
    obtain ⟨-, before, after, split, others⟩ := findRev?_eq_some_iff_append.1 last
    cases s with
    | createTable c =>
      have declared : c.toSchemaTable = t := Option.some.inj declares
      refine ⟨before, c, after, split, fun d hd same ↦ others _ hd ?_,
        SchemaTable.isDeclaredBy_iff.2 declared.symm⟩
      rw [← declared]
      refine beq_iff_eq.2 ?_
      rw [SchemaTable.key_toSchemaTable, SchemaTable.key_toSchemaTable, same]
    | query | insert | update | delete | other => cases declares
  · rintro ⟨before, c, after, split, others, declared⟩
    have declared := SchemaTable.isDeclaredBy_iff.1 declared
    refine ⟨.createTable c, findRev?_eq_some_iff_append.2 ⟨?_, before, after, split, ?_⟩, ?_⟩
    · exact beq_iff_eq.2 (congrArg SchemaTable.key declared.symm)
    · intro s hs fits
      cases s with
      | createTable d =>
        have same : d.toSchemaTable.key = t.key := beq_iff_eq.1 fits
        rw [declared, SchemaTable.key_toSchemaTable, SchemaTable.key_toSchemaTable] at same
        exact others d hs same
      | query | insert | update | delete | other => cases fits
    · exact congrArg some declared.symm

end Schema

/-! ## Statements that say the same -/

namespace Sql

/-- A column declared with the same options in some order, and with or without `NULL` among them. -/
structure ColumnDef.Restates (d d' : ColumnDef) : Prop where
  name : d.name = d'.name
  type : d.type = d'.type
  options : ((d.options.map Prod.snd).filter (!·.isNull)).Perm
    ((d'.options.map Prod.snd).filter (!·.isNull))

/-- A table declared with the same constraints in some order, and with columns that are. -/
structure CreateTable.Restates (c c' : CreateTable) : Prop where
  name : c.name = c'.name
  columns : List.Forall₂ ColumnDef.Restates c.columns c'.columns
  constraints : c.constraints.Perm c'.constraints

/-- A statement as it is, or a table declared once more. -/
inductive Statement.Restates : Statement → Statement → Prop where
  | refl (s : Statement) : Restates s s
  | createTable {c c' : CreateTable} (h : c.Restates c') :
    Restates (.createTable c) (.createTable c')

variable {c c' : CreateTable} {d d' : ColumnDef}

theorem ColumnDef.Restates.mem_options_iff (h : d.Restates d') {o : ColumnOption}
    (plain : o.isNull = false) : o ∈ d.options.map Prod.snd ↔ o ∈ d'.options.map Prod.snd := by
  have same : o ∈ _ ↔ o ∈ _ := h.options.mem_iff
  rw [List.mem_filter, List.mem_filter, plain, Bool.not_false] at same
  rwa [and_iff_left rfl, and_iff_left rfl] at same

end Sql

section Restates

variable {c c' : CreateTable} {d d' : ColumnDef} {column : SchemaColumn}

/-- What declares a column counts, in whatever order it is written. -/
theorem SchemaColumn.IsDeclaredBy.restate (h : column.IsDeclaredBy c d)
    (constraints : c.constraints.Perm c'.constraints) (options : d.Restates d') :
    column.IsDeclaredBy c' d' where
  name := by rw [h.name, options.name]
  type := by rw [h.type, options.type]
  primaryKey := by
    rw [h.primaryKey, ← options.name]
    refine or_congr ?_ ?_
    · exact exists_congr fun _ ↦ options.mem_options_iff rfl
    · simp only [constraints.mem_iff]
  nullable := by rw [h.nullable, options.mem_options_iff rfl]
  foreignKey := by
    rw [h.foreignKey]
    exact exists_congr fun _ ↦ options.mem_options_iff rfl

theorem Sql.CreateTable.Restates.toSchemaTable_eq (h : c.Restates c') :
    c.toSchemaTable = c'.toSchemaTable := by
  have columns : c.columns.map (SchemaColumn.ofDefinition c.keys) =
      c'.columns.map (SchemaColumn.ofDefinition c'.keys) := by
    rw [← List.forall₂_eq_eq_eq, List.forall₂_map_left_iff, List.forall₂_map_right_iff]
    refine h.columns.imp fun d d' options ↦ ?_
    have declared := SchemaColumn.isDeclaredBy_ofDefinition c d
    exact (declared.restate h.constraints options).eq_ofDefinition
  rw [toSchemaTable, toSchemaTable, h.name, columns]

theorem Sql.Statement.Restates.table?_eq {s s' : Statement} (h : s.Restates s') :
    s.table? = s'.table? := by
  cases h with
  | refl => rfl
  | createTable h => exact congrArg some h.toSchemaTable_eq

theorem Schema.ofStatements_restate {statements statements' : List Statement}
    (h : List.Forall₂ Statement.Restates statements statements') :
    ofStatements statements = ofStatements statements' := by
  rw [ofStatements_eq, ofStatements_eq]
  congr 1
  induction h with
  | nil => rfl
  | cons head _ ih => rw [List.filterMap_cons, List.filterMap_cons, head.table?_eq, ih]

end Restates

namespace Schema

/-- The tables of a schema are those that statements declare, each as the last one of its name does,
with its keys and what may be null. Neither the order of options and constraints nor a `NULL` among
the options makes a difference, and no column of a primary key may be null. -/
theorem details_follow_declarations (statements : List Statement) :
    (∀ t, t ∈ (ofStatements statements).details ↔
      ∃ before c after, statements = before ++ .createTable c :: after ∧
        (∀ d, .createTable d ∈ after → Text.lower d.tableName ≠ Text.lower c.tableName) ∧
        t.IsDeclaredBy c) ∧
    (∀ statements', List.Forall₂ Statement.Restates statements statements' →
      ofStatements statements = ofStatements statements') ∧
    ∀ t ∈ (ofStatements statements).details, ∀ column ∈ t.columns,
      column.primaryKey → ¬column.nullable := by
  refine ⟨fun t ↦ mem_details_iff, fun statements' h ↦ ofStatements_restate h, ?_⟩
  intro t ht column hc primaryKey nullable
  obtain ⟨-, c, -, -, -, declared⟩ := mem_details_iff.1 ht
  rw [SchemaTable.isDeclaredBy_iff.1 declared] at hc
  obtain ⟨d, -, rfl⟩ := List.mem_map.1 hc
  exact ((SchemaColumn.isDeclaredBy_ofDefinition c d).nullable.1 nullable).1 primaryKey

/-- Of `CREATE TABLE t (x INT)` and then
`CREATE TABLE s.T (a INT NOT NULL REFERENCES u, b INT NULL, PRIMARY KEY (B), CHECK (a))` the second
counts, and so it does as `CREATE TABLE s.T (a INT REFERENCES u NOT NULL, b INT, CHECK (a),
PRIMARY KEY (B))`. -/
theorem details_follow_declarations_sample :
    let create (name : Sql.ObjectName) (columns : List ColumnDef)
        (constraints : List TableConstraint) : Statement :=
      .createTable ⟨"CREATE TABLE", name, "", columns, constraints, []⟩
    let column (name : String) (options : List ColumnOption) : ColumnDef :=
      ⟨⟨name, none⟩, .integer "INT" none false, none, options.map (none, ·)⟩
    let u := ColumnOption.references [.text "REFERENCES u"]
    let key := TableConstraint.primaryKey "PRIMARY KEY" [⟨"B", none⟩] ""
    let check := TableConstraint.other [.text "CHECK (a)"]
    let first := create [⟨"t", none⟩] [column "x" []] []
    let name : Sql.ObjectName := [⟨"s", none⟩, ⟨"T", none⟩]
    let statements := [first, create name
      [column "a" [.notNull, u], column "b" [.other [.text "NULL"]]] [key, check]]
    let statements' := [first, create name [column "a" [u, .notNull], column "b" []] [check, key]]
    let a : SchemaColumn :=
      { name := "a", type := "INT", nullable := false, primaryKey := false, foreignKey := true }
    let b : SchemaColumn :=
      { name := "b", type := "INT", nullable := false, primaryKey := true, foreignKey := false }
    (ofStatements statements).details = [⟨"T", some "s", [a, b]⟩] ∧
      ofStatements statements = ofStatements statements' ∧ ¬b.nullable := by
  intro create column u key check first name statements statements' a b
  have details : (ofStatements statements).details = [⟨"T", some "s", [a, b]⟩] := by
    decide +kernel
  refine ⟨details, ?_, ?_⟩
  · refine (details_follow_declarations statements).2.1 statements' ?_
    refine .cons (.refl first) (.cons (.createTable ⟨rfl, ?_, List.Perm.swap ..⟩) .nil)
    exact .cons ⟨rfl, rfl, List.Perm.swap ..⟩ (.cons ⟨rfl, rfl, .nil⟩ .nil)
  · refine (details_follow_declarations statements).2.2 ⟨"T", some "s", [a, b]⟩ ?_ b ?_ rfl
    · rw [details]
      exact List.mem_singleton_self _
    · exact .tail _ (.head _)

end Schema

end SqlFootprint
