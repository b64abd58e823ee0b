import SqlFootprint.Proofs.Sql.Sightings

/-!
# Rewriting expressions

A rewriting says what becomes of references, parentheses, binary operations, `BETWEEN` and lists
after `IN`, once their operands have been rewritten. Everything else keeps its form, and queries
inside an expression are left alone. Two expressions differ in no more than a rewriting undoes if
they are the same after it.

What is met in an expression is related to what is met in it after a rewriting as soon as this holds
of the five forms: `Rewriting.Keeps.sightings`.
-/

namespace SqlFootprint.Sql

structure Rewriting where
  column : List Ident → Ident → Expr := .column
  /-- What becomes of parentheses around an expression. -/
  group : Expr → Expr := .nested
  binary : Expr → BinaryOp → Expr → Expr := .binary
  between : Expr → Bool → Expr → Expr → Expr := .between
  inList : Expr → Bool → List Expr → Expr := .inList

mutual

def Expr.rewrite (h : Rewriting) : Expr → Expr
  | .column path name => h.column path name
  | .constant text => .constant text
  | .binary left op right => h.binary (left.rewrite h) op (right.rewrite h)
  | .unary op operand => .unary op (operand.rewrite h)
  | .nested inner => h.group (inner.rewrite h)
  | .cast form operand target format => .cast form (operand.rewrite h) target format
  | .nullTest operand negated => .nullTest (operand.rewrite h) negated
  | .distinctTest left negated right => .distinctTest (left.rewrite h) negated (right.rewrite h)
  | .quantified left op quantifier right =>
    .quantified (left.rewrite h) op quantifier (right.rewrite h)
  | .between operand negated low high =>
    h.between (operand.rewrite h) negated (low.rewrite h) (high.rewrite h)
  | .inList operand negated items => h.inList (operand.rewrite h) negated (rewriteExprs h items)
  | .inQuery operand negated query => .inQuery (operand.rewrite h) negated query
  | .pattern kind operand negated any against escape =>
    .pattern kind (operand.rewrite h) negated any (against.rewrite h) escape
  | .existsQuery negated query => .existsQuery negated query
  | .subquery query => .subquery query
  | .call name parameters arguments within filter nulls window =>
    .call name (parameters.rewrite h) (arguments.rewrite h) (rewriteKeys h within)
      (rewriteOption h filter) nulls (window.rewrite h)
  | .braced call => .braced (call.rewrite h)
  | .cases operand conditions results otherwise =>
    .cases (rewriteOption h operand) (rewriteExprs h conditions) (rewriteExprs h results)
      (rewriteOption h otherwise)
  | .trim side what operand characters =>
    .trim side (rewriteOption h what) (operand.rewrite h) (rewriteExprs h characters)
  | .groupingSets parts => .groupingSets (rewritePieces h parts)
  | .template parts => .template (rewritePieces h parts)
  | .raw parts => .raw (rewritePieces h parts)

def rewriteExprs (h : Rewriting) : List Expr → List Expr
  | [] => []
  | e :: es => e.rewrite h :: rewriteExprs h es

def rewriteOption (h : Rewriting) : Option Expr → Option Expr
  | none => none
  | some e => some (e.rewrite h)

def Piece.rewrite (h : Rewriting) : Piece → Piece
  | .expr e => .expr (e.rewrite h)
  | .text s => .text s
  | .query q => .query q
  | .table t => .table t

def rewritePieces (h : Rewriting) : List Piece → List Piece
  | [] => []
  | p :: ps => p.rewrite h :: rewritePieces h ps

def Args.rewrite (h : Rewriting) : Args → Args
  | .none => .none
  | .query q => .query q
  | .list treatment items clauses => .list treatment (rewriteArgs h items) (rewritePieces h clauses)

def rewriteArgs (h : Rewriting) : List Arg → List Arg
  | [] => []
  | a :: as => a.rewrite h :: rewriteArgs h as

def Arg.rewrite (h : Rewriting) : Arg → Arg
  | .value e => .value (e.rewrite h)
  | .wildcard qualifier => .wildcard qualifier
  | .named name operator arg => .named name operator (arg.rewrite h)
  | .keyed key operator arg => .keyed (key.rewrite h) operator (arg.rewrite h)

def Window.rewrite (h : Rewriting) : Window → Window
  | .none => .none
  | .named name => .named name
  | .spec base partition order frame =>
    .spec base (rewriteExprs h partition) (rewriteKeys h order) (rewritePieces h frame)

def rewriteKeys (h : Rewriting) : List OrderKey → List OrderKey
  | [] => []
  | k :: ks => k.rewrite h :: rewriteKeys h ks

def OrderKey.rewrite (h : Rewriting) : OrderKey → OrderKey
  | .mk expr options => .mk (expr.rewrite h) (rewritePieces h options)

end

/-! ## Queries -/

def SelectItem.rewrite (h : Rewriting) : SelectItem → SelectItem
  | .expr e => .expr (e.rewrite h)
  | .aliased e aliasName => .aliased (e.rewrite h) aliasName
  | .wildcard options => .wildcard (rewritePieces h options)
  | .qualifiedWildcard name options => .qualifiedWildcard name (rewritePieces h options)

def Grouping.rewrite (h : Rewriting) : Grouping → Grouping
  | .all modifiers => .all modifiers
  | .keys exprs modifiers => .keys (rewriteExprs h exprs) modifiers

/-- Rewrites the clauses of a selection. What stands in `FROM` is left alone. -/
def Select.rewrite (h : Rewriting) (s : Select) : Select :=
  { s with
    head := rewritePieces h s.head
    projection := s.projection.map (·.rewrite h)
    into := rewritePieces h s.into
    views := rewritePieces h s.views
    filter := rewriteOption h s.filter
    grouping := s.grouping.rewrite h
    layout := rewritePieces h s.layout
    having := rewriteOption h s.having
    tail := rewritePieces h s.tail }

/-- Rewrites a query that is a single selection, in all of its own clauses. -/
def Query.rewrite (h : Rewriting) (q : Query) : Query :=
  { q with
    body := match q.body with
      | .select s => .select (s.rewrite h)
      | body => body
    order := rewriteKeys h q.order
    tail := rewritePieces h q.tail }

/-! ## What is met after a rewriting -/

open Sighting (deeper mentioned joined)

/-- Whatever is met before and after a rewriting stands in some relation, as far as the five forms
go that it may change. -/
structure Rewriting.Keeps (h : Rewriting) (R : List Sighting → List Sighting → Prop) : Prop where
  nil : R [] []
  append {a b c d : List Sighting} : R a c → R b d → R (a ++ b) (c ++ d)
  deeper {a c : List Sighting} : R a c → R (Sighting.deeper a) (Sighting.deeper c)
  mentioned {a c : List Sighting} : R a c → R (Sighting.mentioned a) (Sighting.mentioned c)
  query (q : Query) : R [{ sight := .query q }] [{ sight := .query q }]
  column (path : List Ident) (name : Ident) :
    R (Expr.column path name).sightings (h.column path name).sightings
  group {a : List Sighting} {e : Expr} :
    R a e.sightings → R (Sighting.deeper a) (h.group e).sightings
  binary {a b : List Sighting} (op : BinaryOp) {left right : Expr} :
    R a left.sightings → R b right.sightings → R (joined op a b) (h.binary left op right).sightings
  between {a b c : List Sighting} (negated : Bool) {operand low high : Expr} :
    R a operand.sightings → R b low.sightings → R c high.sightings →
      R (Sighting.deeper (a ++ Sighting.mentioned (b ++ c)))
        (h.between operand negated low high).sightings
  inList {a b : List Sighting} (negated : Bool) {operand : Expr} {items : List Expr} :
    R a operand.sightings → R b (sightingsOfExprs items) →
      R (Sighting.deeper (a ++ Sighting.mentioned b)) (h.inList operand negated items).sightings

variable {h : Rewriting} {R : List Sighting → List Sighting → Prop}

mutual

/-- What is met in an expression is related to what is met after it has been rewritten. -/
theorem Rewriting.Keeps.sightings (k : h.Keeps R) : ∀ e : Expr,
    R e.sightings (e.rewrite h).sightings
  | .column path name => k.column path name
  | .constant _ => k.nil
  | .binary left op right => k.binary op (k.sightings left) (k.sightings right)
  | .unary _ operand => k.deeper (k.sightings operand)
  | .nested inner => k.group (k.sightings inner)
  | .cast _ operand _ _ => k.deeper (k.sightings operand)
  | .nullTest operand _ => k.deeper (k.sightings operand)
  | .distinctTest left _ right => k.deeper (k.append (k.sightings left) (k.sightings right))
  | .quantified left _ _ right => k.deeper (k.append (k.sightings left) (k.sightings right))
  | .between operand negated low high =>
    k.between negated (k.sightings operand) (k.sightings low) (k.sightings high)
  | .inList operand negated items =>
    k.inList negated (k.sightings operand) (k.sightingsOfExprs items)
  | .inQuery operand _ query => k.deeper (k.append (k.sightings operand) (k.query query))
  | .pattern _ operand _ _ against _ =>
    k.deeper (k.append (k.sightings operand) (k.mentioned (k.sightings against)))
  | .existsQuery _ query => k.deeper (k.query query)
  | .subquery query => k.deeper (k.query query)
  | .call _ _ arguments _ filter _ window =>
    k.deeper (k.append (k.sightingsOfArguments arguments)
      (k.append (k.sightingsOfOption filter) (k.sightingsOfWindow window)))
  | .braced call => k.sightings call
  | .cases operand conditions results otherwise =>
    k.deeper (k.append (k.sightingsOfOption operand) (k.append (k.sightingsOfExprs conditions)
      (k.append (k.sightingsOfExprs results) (k.sightingsOfOption otherwise))))
  | .trim _ what operand characters =>
    k.deeper (k.append (k.sightings operand)
      (k.append (k.sightingsOfOption what) (k.sightingsOfExprs characters)))
  | .groupingSets parts => k.deeper (k.sightingsOfPieces parts)
  | .template parts => k.deeper (k.sightingsOfPieces parts)
  | .raw _ => k.nil

theorem Rewriting.Keeps.sightingsOfExprs (k : h.Keeps R) : ∀ es : List Expr,
    R (Sql.sightingsOfExprs es) (Sql.sightingsOfExprs (rewriteExprs h es))
  | [] => k.nil
  | e :: es => k.append (k.sightings e) (k.sightingsOfExprs es)

theorem Rewriting.Keeps.sightingsOfOption (k : h.Keeps R) : ∀ e : Option Expr,
    R (Sql.sightingsOfOption e) (Sql.sightingsOfOption (rewriteOption h e))
  | none => k.nil
  | some e => k.sightings e

theorem Rewriting.Keeps.sightingsOfPieces (k : h.Keeps R) : ∀ ps : List Piece,
    R (Sql.sightingsOfPieces ps) (Sql.sightingsOfPieces (rewritePieces h ps))
  | [] => k.nil
  | .expr e :: ps => k.append (k.sightings e) (k.sightingsOfPieces ps)
  | .text _ :: ps => k.sightingsOfPieces ps
  | .query _ :: ps => k.sightingsOfPieces ps
  | .table _ :: ps => k.sightingsOfPieces ps

theorem Rewriting.Keeps.sightingsOfArguments (k : h.Keeps R) : ∀ as : Args,
    R as.sightings (as.rewrite h).sightings
  | .none => k.nil
  | .query q => k.query q
  | .list _ items _ => k.sightingsOfArgs items

theorem Rewriting.Keeps.sightingsOfArgs (k : h.Keeps R) : ∀ as : List Arg,
    R (Sql.sightingsOfArgs as) (Sql.sightingsOfArgs (rewriteArgs h as))
  | [] => k.nil
  | a :: as => k.append (k.sightingsOfArg a) (k.sightingsOfArgs as)

theorem Rewriting.Keeps.sightingsOfArg (k : h.Keeps R) : ∀ a : Arg,
    R a.sightings (a.rewrite h).sightings
  | .value e => k.sightings e
  | .wildcard _ => k.nil
  | .named _ _ (.value e) => k.sightings e
  | .named _ _ (.wildcard _) => k.nil
  | .named _ _ (.named _ _ _) => k.nil
  | .named _ _ (.keyed _ _ _) => k.nil
  | .keyed _ _ _ => k.nil

theorem Rewriting.Keeps.sightingsOfWindow (k : h.Keeps R) : ∀ w : Window,
    R w.sightings (w.rewrite h).sightings
  | .none => k.nil
  | .named _ => k.nil
  | .spec _ partition order _ => k.append (k.sightingsOfExprs partition) (k.sightingsOfKeys order)

theorem Rewriting.Keeps.sightingsOfKeys (k : h.Keeps R) : ∀ ks : List OrderKey,
    R (Sql.sightingsOfKeys ks) (Sql.sightingsOfKeys (rewriteKeys h ks))
  | [] => k.nil
  | o :: os => k.append (k.sightingsOfKey o) (k.sightingsOfKeys os)

theorem Rewriting.Keeps.sightingsOfKey (k : h.Keeps R) : ∀ o : OrderKey,
    R o.sightings (o.rewrite h).sightings
  | .mk expr _ => k.sightings expr

end

theorem Rewriting.Keeps.sightingsOfItems (k : h.Keeps R) : ∀ is : List SelectItem,
    R (is.flatMap SelectItem.sightings) ((is.map (·.rewrite h)).flatMap SelectItem.sightings)
  | [] => k.nil
  | .expr e :: is => k.append (k.sightings e) (k.sightingsOfItems is)
  | .aliased e _ :: is => k.append (k.sightings e) (k.sightingsOfItems is)
  | .wildcard _ :: is => k.append k.nil (k.sightingsOfItems is)
  | .qualifiedWildcard _ _ :: is => k.append k.nil (k.sightingsOfItems is)

theorem Rewriting.Keeps.sightingsOfGrouping (k : h.Keeps R) (g : Grouping) :
    R g.sightings (g.rewrite h).sightings := by
  cases g with
  | all modifiers => exact k.nil
  | keys exprs modifiers => exact k.sightingsOfExprs exprs

/-- What is met in a query is related to what is met after it has been rewritten. -/
theorem Rewriting.Keeps.sightingsOfQuery (k : h.Keeps R) (q : Query) :
    R q.sightings (q.rewrite h).sightings := by
  obtain ⟨recursive, ctes, body, order, tail⟩ := q
  cases body with
  | select s =>
    have rest := k.append (k.sightingsOfGrouping s.grouping) (k.sightingsOfOption s.having)
    exact k.append
      (k.append (k.sightingsOfItems s.projection) (k.append (k.sightingsOfOption s.filter) rest))
      (k.sightingsOfKeys order)
  | _ => exact k.nil

end SqlFootprint.Sql
