import SqlFootprint.Sql.DataType

/-!
# Syntax trees

Statements, queries and expressions as the grammar reads them. Forms that differ only in their
keywords share a constructor: an `Expr.template` is a form whose operands stand on equal terms,
and a `Piece` list holds clauses that no analysis looks into. Both keep every expression and
query they contain, so nothing that was read is lost from the tree.
-/

namespace SqlFootprint.Sql

/-- The relations that make a comparison: order and equality, and regular expressions. -/
inductive Comparison where
  | eq | ne | lt | le | gt | ge
  | matches | matchesFold | differs | differsFold
deriving DecidableEq, Repr

inductive BinaryOp where
  | and
  | or
  | compare (c : Comparison)
  | other (spelling : String)
deriving DecidableEq, Repr

inductive UnaryOp where
  | not
  | before (spelling : String)
  | after (spelling : String)
deriving DecidableEq, Repr

inductive CastForm where
  | cast | tryCast | safeCast | doubleColon
deriving DecidableEq, Repr

inductive Quantifier where
  | any | some | all
deriving DecidableEq, Repr

/-- The pattern tests. -/
inductive PatternKind where
  | like | ilike | similar | rlike | regexp
deriving DecidableEq, Repr

inductive SetOp where
  | union | except | intersect
deriving DecidableEq, Repr

/-- A name for a relation, and perhaps for its columns. -/
structure TableAlias where
  name : Ident
  columns : List (Ident × Option DataType) := []

/-- What an assignment writes to. -/
inductive AssignTarget where
  | column (name : ObjectName)
  | tuple (names : List ObjectName)

mutual

inductive Expr where
  /-- A column reference: the qualifying names, then the column. -/
  | column (path : List Ident) (name : Ident)
  /-- A literal or typed literal in its canonical spelling. -/
  | constant (text : String)
  | binary (left : Expr) (op : BinaryOp) (right : Expr)
  | unary (op : UnaryOp) (operand : Expr)
  | nested (inner : Expr)
  | cast (form : CastForm) (operand : Expr) (target : DataType) (format : String)
  | nullTest (operand : Expr) (negated : Bool)
  | distinctTest (left : Expr) (negated : Bool) (right : Expr)
  | quantified (left : Expr) (op : Comparison) (quantifier : Quantifier) (right : Expr)
  | between (operand : Expr) (negated : Bool) (low high : Expr)
  | inList (operand : Expr) (negated : Bool) (items : List Expr)
  | inQuery (operand : Expr) (negated : Bool) (query : Query)
  | pattern (kind : PatternKind) (operand : Expr) (negated any : Bool) (against : Expr)
      (escape : Option String)
  | existsQuery (negated : Bool) (query : Query)
  | subquery (query : Query)
  | call (name : ObjectName) (parameters arguments : Args) (within : List OrderKey)
      (filter : Option Expr) (nulls : String) (window : Window)
  /-- A call in braces, after the word `fn`. -/
  | braced (call : Expr)
  | cases (operand : Option Expr) (conditions results : List Expr) (otherwise : Option Expr)
  | trim (side : String) (what : Option Expr) (operand : Expr) (characters : List Expr)
  | groupingSets (parts : List Piece)
  /-- A keyword form such as `POSITION(a IN b)`. Its operands play one role, in order. -/
  | template (parts : List Piece)
  /-- A form whose operands are not analysed. -/
  | raw (parts : List Piece)

/-- Fixed text, or something it surrounds. -/
inductive Piece where
  | text (s : String)
  | expr (e : Expr)
  | query (q : Query)
  | table (t : TableFactor)

/-- The arguments of a call. -/
inductive Args where
  | none
  | query (q : Query)
  | list (treatment : String) (items : List Arg) (clauses : List Piece)

inductive Arg where
  | value (e : Expr)
  /-- `*`, or `t.*` with a qualifier. -/
  | wildcard (qualifier : ObjectName)
  | named (name : Ident) (operator : String) (arg : Arg)
  /-- An argument named by an expression. -/
  | keyed (key : Expr) (operator : String) (arg : Arg)

inductive Window where
  | none
  | named (name : Ident)
  /-- A frame is present exactly if it has pieces. -/
  | spec (base : Option Ident) (partition : List Expr) (order : List OrderKey)
      (frame : List Piece)

/-- An expression to sort by, and how. -/
inductive OrderKey where
  | mk (expr : Expr) (options : List Piece)

/-- A query. Its `tail` is what follows `ORDER BY`: limits, locks and settings. -/
structure Query where
  recursive : Bool
  ctes : List Cte
  body : SetExpr
  order : List OrderKey
  tail : List Piece

structure Cte where
  aliasName : TableAlias
  /-- The words between `AS` and the query. -/
  mode : String
  query : Query
  /-- The words after the query. -/
  after : String

inductive SetExpr where
  | select (s : Select)
  | query (q : Query)
  | operation (op : SetOp) (quantifier : String) (left right : SetExpr)
  | values (parts : List Piece)
  | insert (i : Insert)
  | update (u : Update)
  /-- A body of another kind: a whole table, or rows that go to a directory. -/
  | other (parts : List Piece)

structure Select where
  /-- `DISTINCT` and `TOP`. -/
  head : List Piece
  projection : List SelectItem
  into : List Piece
  sources : List TableWithJoins
  /-- The clauses between `FROM` and `WHERE`. -/
  views : List Piece
  filter : Option Expr
  grouping : Grouping
  /-- The clauses between `GROUP BY` and `HAVING`. -/
  layout : List Piece
  having : Option Expr
  tail : List Piece

inductive Grouping where
  | all (modifiers : String)
  | keys (exprs : List Expr) (modifiers : String)

inductive SelectItem where
  | expr (e : Expr)
  | aliased (e : Expr) (aliasName : Ident)
  | wildcard (options : List Piece)
  | qualifiedWildcard (name : ObjectName) (options : List Piece)

structure TableWithJoins where
  relation : TableFactor
  joins : List Join

inductive TableFactor where
  | table (name : ObjectName) (arguments : List Piece) (aliasName : Option TableAlias)
      (tail : List Piece)
  | derived (lateral : Bool) (query : Query) (aliasName : Option TableAlias)
  | nestedJoin (joined : TableWithJoins) (aliasName : Option TableAlias)
  /-- A relation of another kind: a function call, an unnested array, a pivoted table. -/
  | special (parts : List Piece) (aliasName : Option TableAlias) (tail : List Piece)

structure Join where
  global : Bool
  relation : TableFactor
  operator : JoinOperator

inductive JoinOperator where
  | inner (c : JoinConstraint)
  | left (c : JoinConstraint)
  | right (c : JoinConstraint)
  | full (c : JoinConstraint)
  | cross
  /-- A join that is not one of the five standard kinds. -/
  | special (words : String) (matching : List Piece) (c : JoinConstraint)

inductive JoinConstraint where
  | on (e : Expr)
  | usingColumns (columns : List Ident)
  | natural
  | none

structure Insert where
  /-- The words before the table. -/
  words : String
  table : ObjectName
  aliasName : Option Ident
  columns : List Ident
  partition : List Piece
  source : Option Query
  /-- What is inserted where there is no query. -/
  content : List Piece
  tail : List Piece

structure Update where
  words : String
  table : TableWithJoins
  assignments : List Assignment
  sources : List TableWithJoins
  filter : Option Expr
  tail : List Piece

inductive Assignment where
  | mk (target : AssignTarget) (value : Expr)

end

instance : Inhabited Expr := ⟨.constant ""⟩

structure Delete where
  words : String
  sources : List TableWithJoins
  others : List TableWithJoins
  filter : Option Expr
  tail : List Piece

/-- A column option. A kind that no analysis needs keeps only its text. -/
inductive ColumnOption where
  | notNull
  | primaryKey (tail : String)
  | references (parts : List Piece)
  | other (parts : List Piece)

structure ColumnDef where
  name : Ident
  type : DataType
  collation : Option ObjectName
  /-- Each option, and the name of the constraint if it has one. -/
  options : List (Option Ident × ColumnOption)

inductive TableConstraint where
  /-- A primary key with the words around its columns. -/
  | primaryKey (before : String) (columns : List Ident) (after : String)
  | other (parts : List Piece)

structure CreateTable where
  words : String
  name : ObjectName
  /-- The words between the name and the columns. -/
  placement : String
  columns : List ColumnDef
  constraints : List TableConstraint
  tail : List Piece

inductive Statement where
  | query (q : Query)
  | insert (i : Insert)
  | update (u : Update)
  | delete (d : Delete)
  | createTable (c : CreateTable)
  | other (parts : List Piece)

instance : Inhabited Statement := ⟨.other []⟩

end SqlFootprint.Sql
