import SqlTree.Dump

/-!
# Operators

The unary and binary operators of expressions, with their names and the symbols they are
written by.
-/

set_option autoImplicit false

namespace SqlTree

/-- An operator of expressions. -/
inductive Operator where
  | plus | minus | multiply | divide | modulus
  | gt | lt | gtEq | ltEq | eq | notEq
  | and | or | not | like | notLike
  deriving DecidableEq

namespace Operator

/-- All operators. -/
def all : List Operator :=
  [plus, minus, multiply, divide, modulus, gt, lt, gtEq, ltEq, eq, notEq, and, or, not, like,
   notLike]

/-- The name of an operator. -/
def name : Operator → String
  | plus => "Plus"
  | minus => "Minus"
  | multiply => "Multiply"
  | divide => "Divide"
  | modulus => "Modulus"
  | gt => "Gt"
  | lt => "Lt"
  | gtEq => "GtEq"
  | ltEq => "LtEq"
  | eq => "Eq"
  | notEq => "NotEq"
  | and => "And"
  | or => "Or"
  | not => "Not"
  | like => "Like"
  | notLike => "NotLike"

/-- How an operator is written. -/
def symbol : Operator → String
  | plus => "+"
  | minus => "-"
  | multiply => "*"
  | divide => "/"
  | modulus => "%"
  | gt => ">"
  | lt => "<"
  | gtEq => ">="
  | ltEq => "<="
  | eq => "="
  | notEq => "<>"
  | and => "AND"
  | or => "OR"
  | not => "NOT"
  | like => "LIKE"
  | notLike => "NOT LIKE"

/-- The operator with a given name. -/
def ofName? (name : String) : Option Operator :=
  all.find? fun o => o.name == name

/-- An operator is found under its name. -/
@[simp]
theorem ofName?_name (o : Operator) : ofName? o.name = some o := by
  cases o <;> rfl

/-- An operator is shown by its name. -/
def dump (o : Operator) : Dump :=
  .word o.name

end Operator

end SqlTree
