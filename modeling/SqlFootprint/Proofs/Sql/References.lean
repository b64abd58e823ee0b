import SqlFootprint.Extraction.Condition

/-!
# The columns that an expression refers to

The references to columns in an expression, in the order in which they are read, each as often as
it occurs. They are read off the syntax alone.

Nested queries are not looked into: they refer to columns on their own account. Neither are forms
whose operands are not analysed, and in a call all that is neither an argument, nor in `FILTER`, nor
in `OVER`, such as an order in the parentheses or in `WITHIN GROUP`, and arguments that are named by
an expression.
-/

namespace SqlFootprint.Sql

mutual

def Expr.references : Expr → List ColumnRef
  | .column path name => [⟨path.getLast?.map Ident.text, name.text⟩]
  | .constant _ | .existsQuery _ _ | .subquery _ | .raw _ => []
  | .binary left _ right => left.references ++ right.references
  | .unary _ operand | .nested operand | .cast _ operand _ _ | .nullTest operand _
  | .inQuery operand _ _ => operand.references
  | .distinctTest left _ right | .quantified left _ _ right => left.references ++ right.references
  | .between operand _ low high => operand.references ++ (low.references ++ high.references)
  | .inList operand _ items => operand.references ++ referencesOfExprs items
  | .pattern _ operand _ _ against _ => operand.references ++ against.references
  | .call _ _ arguments _ filter _ window =>
    arguments.references ++ (referencesOfOption filter ++ window.references)
  | .braced call => call.references
  | .cases operand conditions results otherwise =>
    referencesOfOption operand ++ (referencesOfExprs conditions ++ (referencesOfExprs results ++
      referencesOfOption otherwise))
  | .trim _ what operand characters =>
    operand.references ++ (referencesOfOption what ++ referencesOfExprs characters)
  | .groupingSets parts | .template parts => referencesOfPieces parts

def referencesOfExprs : List Expr → List ColumnRef
  | [] => []
  | e :: es => e.references ++ referencesOfExprs es

def referencesOfOption : Option Expr → List ColumnRef
  | none => []
  | some e => e.references

/-- The references of the expressions among the pieces of a form. -/
def referencesOfPieces : List Piece → List ColumnRef
  | [] => []
  | .expr e :: ps => e.references ++ referencesOfPieces ps
  | _ :: ps => referencesOfPieces ps

def Args.references : Args → List ColumnRef
  | .none | .query _ => []
  | .list _ items _ => referencesOfArgs items

def referencesOfArgs : List Arg → List ColumnRef
  | [] => []
  | a :: as => a.references ++ referencesOfArgs as

def Arg.references : Arg → List ColumnRef
  | .value e | .named _ _ (.value e) => e.references
  | .wildcard _ | .named _ _ _ | .keyed _ _ _ => []

def Window.references : Window → List ColumnRef
  | .none | .named _ => []
  | .spec _ partition order frame =>
    referencesOfExprs partition ++ (referencesOfKeys order ++ referencesOfPieces frame)

def referencesOfKeys : List OrderKey → List ColumnRef
  | [] => []
  | k :: ks => k.references ++ referencesOfKeys ks

def OrderKey.references : OrderKey → List ColumnRef
  | .mk expr _ => expr.references

end

end SqlFootprint.Sql
