import Phrasebook.Value.Order

/-!
# Expressions

The form of an expression after reading.  The reader knows the whole expression grammar; the
forms that are read but never evaluated, such as comprehensions, are kept as
`Expr.unsupported` with the name of the form.
-/

namespace Phrasebook

/-- Operators in front of an operand. -/
inductive UnaryOp where
  | plus
  | minus
  | negation
  /-- Bitwise complement, which is read but not evaluated. -/
  | complement
  deriving DecidableEq, Repr

/-- Operators between two operands. -/
inductive BinaryOp where
  | add
  | sub
  | mul
  | div
  | floorDiv
  | mod
  | pow
  /-- Shifts, bitwise operators and the matrix product, which are read but not evaluated. -/
  | other
  deriving DecidableEq, Repr

/-- Comparison operators. -/
inductive CompareOp where
  | eq
  | ne
  | relation (r : Relation)
  | isIn
  | notIn
  | same
  | notSame
  deriving DecidableEq, Repr

/-- An expression. -/
inductive Expr where
  | constant (v : Value)
  | name (id : Text)
  /-- A conjunction of two or more operands. -/
  | all (operands : List Expr)
  /-- A disjunction of two or more operands. -/
  | any (operands : List Expr)
  | unary (op : UnaryOp) (operand : Expr)
  | binary (op : BinaryOp) (left right : Expr)
  /-- A chain of comparisons. -/
  | compare (first : Expr) (rest : List (CompareOp × Expr))
  /-- A call; a keyword argument without a name unpacks a mapping. -/
  | call (callee : Expr) (args : List Expr) (keywords : List (Option Text × Expr))
  | member (owner : Expr) (name : Text)
  | subscript (owner index : Expr)
  /-- A slice; missing bounds are the constant `null`. -/
  | slice (lower upper step : Expr)
  | list (items : List Expr)
  | tuple (items : List Expr)
  | set (items : List Expr)
  /-- A mapping; an entry without a key unpacks another mapping. -/
  | dict (entries : List (Option Expr × Expr))
  /-- The first expression if the condition holds, else the second. -/
  | choice (condition first second : Expr)
  /-- An operand with a star, which is read but not evaluated. -/
  | starred (operand : Expr)
  /-- A form that is read but not evaluated. -/
  | unsupported (form : Text)
  deriving Inhabited

end Phrasebook
