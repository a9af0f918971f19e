import Formula.Number.Binary64
import Formula.Operator

/-! Trees of formulas. Parentheses leave no trace in a tree. -/

namespace Formula

/-- A name may stand for a value, or be given one; a keyword makes the giving a
declaration. The name behind a keyword may also stand there without a value. -/
inductive Expr where
  | number (value : Binary64)
  | reference (name : String)
  | assign (name : String) (init : Expr)
  | announce (keyword name : String)
  | declare (keyword name : String) (init : Expr)
  | binary (left : Expr) (op : Operator) (right : Expr)
deriving DecidableEq

inductive NodeKind where
  | program
  | numericLiteral
  | identifier
  | keyword
  | binaryExpr
deriving DecidableEq

def NodeKind.name : NodeKind → String
  | program => "Program"
  | numericLiteral => "NumericLiteral"
  | identifier => "Identifier"
  | keyword => "Keyword"
  | binaryExpr => "BinaryExpr"

namespace Expr

def kind : Expr → NodeKind
  | number _ => .numericLiteral
  | reference _ | assign _ _ => .identifier
  | announce _ _ | declare _ _ _ => .keyword
  | binary _ _ _ => .binaryExpr

/-- Equal trees, with numbers compared as numbers. -/
def equals : Expr → Expr → Bool
  | number x, number y => x.equals y
  | reference n, reference n' => n == n'
  | assign n init, assign n' init' => n == n' && init.equals init'
  | announce k n, announce k' n' => k == k' && n == n'
  | declare k n init, declare k' n' init' => k == k' && n == n' && init.equals init'
  | binary left op right, binary left' op' right' =>
    left.equals left' && op == op' && right.equals right'
  | _, _ => false

end Expr

structure Program where
  body : List Expr
deriving DecidableEq

end Formula
