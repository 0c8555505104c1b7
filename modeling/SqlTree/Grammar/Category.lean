import SqlTree.Kind

/-!
# Categories

A place of the grammar seldom takes nodes of one kind only. A *category* is a set of kinds that
are allowed at the same places: expressions, statements, table references and so on. A member
of a category has a name within it, which mostly is the name of its kind.

* `Category.variants` lists the members of a category.
* `Target` is what a reference may refer to: a node of one kind, a member of a category, or any
  node at all.
-/

set_option autoImplicit false

namespace SqlTree

/-- A set of kinds that are allowed at the same places. -/
inductive Category where
  | expr
  | setExpr
  | selectItem
  | tableReference
  | joinSpec
  | statement
  | tableElement
  | columnConstraintSpec
  | tableConstraintSpec
  | alterTableAction
  | alterColumnAction
  deriving DecidableEq, Repr

namespace Category

/-- All categories. -/
def all : List Category :=
  [.expr, .setExpr, .selectItem, .tableReference, .joinSpec, .statement, .tableElement,
   .columnConstraintSpec, .tableConstraintSpec, .alterTableAction, .alterColumnAction]

/-- The name of a category. -/
def name : Category → String
  | .expr => "Expr"
  | .setExpr => "SetExpr"
  | .selectItem => "SelectItem"
  | .tableReference => "TableReference"
  | .joinSpec => "JoinSpec"
  | .statement => "Statement"
  | .tableElement => "TableElement"
  | .columnConstraintSpec => "ColumnConstraintSpec"
  | .tableConstraintSpec => "TableConstraintSpec"
  | .alterTableAction => "AlterTableAction"
  | .alterColumnAction => "AlterColumnAction"

/-- The category with a given name. -/
def ofName? (name : String) : Option Category :=
  all.find? fun c => c.name == name

/-- The members of a category, each with its name there. -/
def variants : Category → List (Kind × String)
  | .expr =>
    [(.identifier, "Identifier"), (.compoundIdentifier, "CompoundIdentifier"),
     (.wildcard, "Wildcard"), (.value, "Value"), (.isNull, "IsNull"), (.isNotNull, "IsNotNull"),
     (.inList, "InList"), (.inSubquery, "InSubquery"), (.between, "Between"),
     (.binaryExpr, "Binary"), (.unary, "Unary"), (.cast, "Cast"), (.nested, "Nested"),
     (.function, "Function"), (.caseExpr, "Case"), (.existsExpr, "Exists"),
     (.subquery, "Subquery"), (.dialect, "Dialect")]
  | .setExpr =>
    [(.select, "Select"), (.query, "Query"), (.setOperation, "SetOperation"),
     (.values, "Values")]
  | .selectItem =>
    [(.unnamedExpression, "Unnamed"), (.expressionWithAlias, "WithAlias"),
     (.qualifiedWildcard, "QualifiedWildcard"), (.wildcard, "Wildcard")]
  | .tableReference =>
    [(.table, "Table"), (.derived, "Derived"), (.qualifiedJoin, "QualifiedJoin"),
     (.naturalJoin, "NaturalJoin"), (.crossJoin, "CrossJoin"), (.dialect, "Dialect")]
  | .joinSpec => [(.joinCondition, "On"), (.namedColumnsJoin, "Using")]
  | .statement =>
    [(.query, "Query"), (.insert, "Insert"), (.copy, "Copy"), (.update, "Update"),
     (.delete, "Delete"), (.createView, "CreateView"), (.createTable, "CreateTable"),
     (.createIndex, "CreateIndex"), (.alterTable, "AlterTable"), (.dropTable, "DropTable"),
     (.dropView, "DropView"), (.dropIndex, "DropIndex"), (.explain, "Explain"),
     (.dialect, "Dialect")]
  | .tableElement => [(.columnDef, "Column"), (.tableConstraint, "Constraint")]
  | .columnConstraintSpec =>
    [(.notNullColumnSpec, "NotNull"), (.uniqueColumnSpec, "Unique"),
     (.referencesColumnSpec, "References"), (.checkColumnSpec, "Check")]
  | .tableConstraintSpec =>
    [(.uniqueTableConstraint, "Unique"), (.referentialTableConstraint, "Referential"),
     (.checkTableConstraint, "Check")]
  | .alterTableAction =>
    [(.addColumnTableAction, "AddColumn"), (.alterColumnTableAction, "AlterColumn"),
     (.removeColumnTableAction, "RemoveColumn"), (.addConstraintTableAction, "AddConstraint"),
     (.dropConstraintTableAction, "DropConstraint")]
  | .alterColumnAction =>
    [(.setDefaultColumnAction, "SetDefault"), (.dropDefaultColumnAction, "DropDefault"),
     (.alterDataTypeColumnAction, "AlterDataType"), (.setNotNullColumnAction, "SetNotNull"),
     (.dropNotNullColumnAction, "DropNotNull")]

/-- The name of a kind within a category, if it is a member. -/
def variantName? (c : Category) (k : Kind) : Option String :=
  c.variants.lookup k

/-- Whether a kind is a member of a category. -/
def contains (c : Category) (k : Kind) : Bool :=
  (c.variantName? k).isSome

end Category

/-- What a reference may refer to. -/
inductive Target where
  /-- A node of any kind. -/
  | any
  /-- A node of one kind. -/
  | only (k : Kind)
  /-- A member of a category. -/
  | member (c : Category)
  deriving DecidableEq, Repr

namespace Target

/-- Whether a reference may refer to a node of kind `k`. -/
def accepts : Target → Kind → Bool
  | any, _ => true
  | only k', k => k' == k
  | member c, k => c.contains k

/-- The variant that a referenced node is shown in. A reference that has no choice of kinds
shows none. -/
def variantName? : Target → Kind → Option String
  | any, k => some k.name
  | only _, _ => none
  | member c, k => c.variantName? k

end Target

end SqlTree
