import SqlTree.Datum
import SqlTree.Dump

/-!
# The kinds of nodes

Every node of a tree has one kind. The built-in kinds are the forms of the grammar; the kind
`dialect` stands for all nodes whose form is declared at run time.

* `Kind.name` is the name of a kind and `Kind.ofName?` reads it back.
* `Kind.isLeaf` and `Kind.isStatement` single out the kinds that never have children and the
  kinds that stand at the top of a script.
-/

set_option autoImplicit false

namespace SqlTree

/-- The kind of a node. -/
inductive Kind where
  /-- A single name, quoted or not. -/
  | ident
  /-- A name used as an expression. -/
  | identifier
  /-- A dotted name used as an expression. -/
  | compoundIdentifier
  /-- The dotted name of a table, a view or a function. -/
  | objectName
  /-- The form `*`, in a projection or as an argument. -/
  | wildcard
  /-- A literal. -/
  | value
  /-- A unary or binary operator. -/
  | operator
  /-- The type of a column or of a cast. -/
  | dataType
  /-- The form `e IS NULL`. -/
  | isNull
  /-- The form `e IS NOT NULL`. -/
  | isNotNull
  /-- The form `e [NOT] IN (e, ...)`. -/
  | inList
  /-- The form `e [NOT] IN (query)`. -/
  | inSubquery
  /-- The form `e [NOT] BETWEEN low AND high`. -/
  | between
  /-- An operator between two operands. -/
  | binaryExpr
  /-- An operator before its operand. -/
  | unary
  /-- The form `CAST(e AS type)`. -/
  | cast
  /-- An expression in parentheses. -/
  | nested
  /-- The call of a function. -/
  | function
  /-- The form `CASE ... END`. -/
  | caseExpr
  /-- The form `[NOT] EXISTS (query)`. -/
  | existsExpr
  /-- A query used as an expression. -/
  | subquery
  /-- The window of a call, `OVER (...)`. -/
  | windowSpec
  /-- The frame of a window. -/
  | windowFrame
  /-- What a frame counts. -/
  | windowFrameUnits
  /-- One end of a frame. -/
  | windowFrameBound
  /-- A query with its common tables, order and limit. -/
  | query
  /-- A common table of a query. -/
  | cte
  /-- A `SELECT` block. -/
  | select
  /-- A `WHERE` clause. -/
  | whereClause
  /-- Rows given by their expressions. -/
  | values
  /-- Two queries combined row by row. -/
  | setOperation
  /-- The form `UNION`, `EXCEPT` or `INTERSECT`. -/
  | setOperator
  /-- A projected expression without an alias. -/
  | unnamedExpression
  /-- A projected expression with an alias. -/
  | expressionWithAlias
  /-- The form `name.*` in a projection. -/
  | qualifiedWildcard
  /-- One key of an order. -/
  | orderByExpr
  /-- The form `LIMIT` and `OFFSET`. -/
  | limit
  /-- A table given by its name. -/
  | table
  /-- A query used as a table. -/
  | derived
  /-- A join with a condition or a column list. -/
  | qualifiedJoin
  /-- A join on all common columns. -/
  | naturalJoin
  /-- A join of every row with every row. -/
  | crossJoin
  /-- Which rows without a partner a join keeps. -/
  | joinType
  /-- The form `ON condition`. -/
  | joinCondition
  /-- The form `USING (columns)`. -/
  | namedColumnsJoin
  /-- The form `INSERT INTO`. -/
  | insert
  /-- The form `COPY ... FROM STDIN`. -/
  | copy
  /-- The form `UPDATE`. -/
  | update
  /-- The form `DELETE FROM`. -/
  | delete
  /-- The form `column = value` in an update. -/
  | assignment
  /-- The form `EXPLAIN statement`. -/
  | explain
  /-- The form `CREATE TABLE`. -/
  | createTable
  /-- The form `CREATE [MATERIALIZED] VIEW`. -/
  | createView
  /-- The form `CREATE [UNIQUE] INDEX`. -/
  | createIndex
  /-- The form `ALTER TABLE`. -/
  | alterTable
  /-- The form `DROP TABLE`. -/
  | dropTable
  /-- The form `DROP VIEW`. -/
  | dropView
  /-- The form `DROP INDEX`. -/
  | dropIndex
  /-- The definition of a column. -/
  | columnDef
  /-- A constraint on a column, named or not. -/
  | columnConstraint
  /-- The form `NOT NULL` on a column. -/
  | notNullColumnSpec
  /-- The form `UNIQUE` or `PRIMARY KEY` on a column. -/
  | uniqueColumnSpec
  /-- The form `REFERENCES table (columns)` on a column. -/
  | referencesColumnSpec
  /-- The form `CHECK (e)` on a column. -/
  | checkColumnSpec
  /-- A constraint on a table, named or not. -/
  | tableConstraint
  /-- The form `UNIQUE (columns)` or `PRIMARY KEY (columns)`. -/
  | uniqueTableConstraint
  /-- The form `FOREIGN KEY (columns) REFERENCES ...`. -/
  | referentialTableConstraint
  /-- The table and columns that a foreign key refers to. -/
  | referenceKeyExpr
  /-- The form `CHECK (e)` on a table. -/
  | checkTableConstraint
  /-- The form `ADD COLUMN`. -/
  | addColumnTableAction
  /-- The form `ALTER COLUMN`. -/
  | alterColumnTableAction
  /-- The form `DROP COLUMN`. -/
  | removeColumnTableAction
  /-- The form `ADD CONSTRAINT`. -/
  | addConstraintTableAction
  /-- The form `DROP CONSTRAINT`. -/
  | dropConstraintTableAction
  /-- The form `SET DEFAULT e`. -/
  | setDefaultColumnAction
  /-- The form `DROP DEFAULT`. -/
  | dropDefaultColumnAction
  /-- The form `TYPE type`. -/
  | alterDataTypeColumnAction
  /-- The form `SET NOT NULL`. -/
  | setNotNullColumnAction
  /-- The form `DROP NOT NULL`. -/
  | dropNotNullColumnAction
  /-- A node whose form is declared at run time. -/
  | dialect
  deriving DecidableEq, Repr

namespace Kind

/-- All kinds, in the order of their declaration. -/
def all : List Kind :=
  [.ident, .identifier, .compoundIdentifier, .objectName, .wildcard, .value, .operator, .dataType,
   .isNull, .isNotNull, .inList, .inSubquery, .between, .binaryExpr, .unary, .cast, .nested,
   .function, .caseExpr, .existsExpr, .subquery, .windowSpec, .windowFrame, .windowFrameUnits,
   .windowFrameBound, .query, .cte, .select, .whereClause, .values, .setOperation, .setOperator,
   .unnamedExpression, .expressionWithAlias, .qualifiedWildcard, .orderByExpr, .limit, .table,
   .derived, .qualifiedJoin, .naturalJoin, .crossJoin, .joinType, .joinCondition,
   .namedColumnsJoin, .insert, .copy, .update, .delete, .assignment, .explain, .createTable,
   .createView, .createIndex, .alterTable, .dropTable, .dropView, .dropIndex, .columnDef,
   .columnConstraint, .notNullColumnSpec, .uniqueColumnSpec, .referencesColumnSpec,
   .checkColumnSpec, .tableConstraint, .uniqueTableConstraint, .referentialTableConstraint,
   .referenceKeyExpr, .checkTableConstraint, .addColumnTableAction, .alterColumnTableAction,
   .removeColumnTableAction, .addConstraintTableAction, .dropConstraintTableAction,
   .setDefaultColumnAction, .dropDefaultColumnAction, .alterDataTypeColumnAction,
   .setNotNullColumnAction, .dropNotNullColumnAction, .dialect]

/-- The name of a kind. -/
def name : Kind → String
  | .ident => "Ident"
  | .identifier => "Identifier"
  | .compoundIdentifier => "CompoundIdentifier"
  | .objectName => "ObjectName"
  | .wildcard => "Wildcard"
  | .value => "Value"
  | .operator => "Operator"
  | .dataType => "DataType"
  | .isNull => "IsNull"
  | .isNotNull => "IsNotNull"
  | .inList => "InList"
  | .inSubquery => "InSubquery"
  | .between => "Between"
  | .binaryExpr => "BinaryExpr"
  | .unary => "Unary"
  | .cast => "Cast"
  | .nested => "Nested"
  | .function => "Function"
  | .caseExpr => "Case"
  | .existsExpr => "Exists"
  | .subquery => "Subquery"
  | .windowSpec => "WindowSpec"
  | .windowFrame => "WindowFrame"
  | .windowFrameUnits => "WindowFrameUnits"
  | .windowFrameBound => "WindowFrameBound"
  | .query => "Query"
  | .cte => "Cte"
  | .select => "Select"
  | .whereClause => "Where"
  | .values => "Values"
  | .setOperation => "SetOperation"
  | .setOperator => "SetOperator"
  | .unnamedExpression => "UnnamedExpression"
  | .expressionWithAlias => "ExpressionWithAlias"
  | .qualifiedWildcard => "QualifiedWildcard"
  | .orderByExpr => "OrderByExpr"
  | .limit => "Limit"
  | .table => "Table"
  | .derived => "Derived"
  | .qualifiedJoin => "QualifiedJoin"
  | .naturalJoin => "NaturalJoin"
  | .crossJoin => "CrossJoin"
  | .joinType => "JoinType"
  | .joinCondition => "JoinCondition"
  | .namedColumnsJoin => "NamedColumnsJoin"
  | .insert => "Insert"
  | .copy => "Copy"
  | .update => "Update"
  | .delete => "Delete"
  | .assignment => "Assignment"
  | .explain => "Explain"
  | .createTable => "CreateTable"
  | .createView => "CreateView"
  | .createIndex => "CreateIndex"
  | .alterTable => "AlterTable"
  | .dropTable => "DropTable"
  | .dropView => "DropView"
  | .dropIndex => "DropIndex"
  | .columnDef => "ColumnDef"
  | .columnConstraint => "ColumnConstraint"
  | .notNullColumnSpec => "NotNullColumnSpec"
  | .uniqueColumnSpec => "UniqueColumnSpec"
  | .referencesColumnSpec => "ReferencesColumnSpec"
  | .checkColumnSpec => "CheckColumnSpec"
  | .tableConstraint => "TableConstraint"
  | .uniqueTableConstraint => "UniqueTableConstraint"
  | .referentialTableConstraint => "ReferentialTableConstraint"
  | .referenceKeyExpr => "ReferenceKeyExpr"
  | .checkTableConstraint => "CheckTableConstraint"
  | .addColumnTableAction => "AddColumnTableAction"
  | .alterColumnTableAction => "AlterColumnTableAction"
  | .removeColumnTableAction => "RemoveColumnTableAction"
  | .addConstraintTableAction => "AddConstraintTableAction"
  | .dropConstraintTableAction => "DropConstraintTableAction"
  | .setDefaultColumnAction => "SetDefaultColumnAction"
  | .dropDefaultColumnAction => "DropDefaultColumnAction"
  | .alterDataTypeColumnAction => "AlterDataTypeColumnAction"
  | .setNotNullColumnAction => "SetNotNullColumnAction"
  | .dropNotNullColumnAction => "DropNotNullColumnAction"
  | .dialect => "Dialect"

/-- The kind with a given name. -/
def ofName? (name : String) : Option Kind :=
  all.find? fun k => k.name == name

/-- No kind is left out of the list. -/
theorem mem_all (k : Kind) : k ∈ all := by
  cases k <;> exact List.elem_iff.1 rfl

/-- A kind is found under its name. -/
@[simp]
theorem ofName?_name (k : Kind) : ofName? k.name = some k := by
  have h : ∀ k ∈ all, ofName? k.name = some k := by decide +kernel
  exact h k (mem_all k)

/-- The kinds whose nodes never have children. -/
def isLeaf : Kind → Bool
  | .ident | .wildcard | .value | .operator | .dataType | .windowFrameUnits | .windowFrameBound
  | .setOperator | .joinType | .notNullColumnSpec | .uniqueColumnSpec | .dropDefaultColumnAction
  | .setNotNullColumnAction | .dropNotNullColumnAction => true
  | _ => false

/-- The kinds that stand at the top of a script. -/
def isStatement : Kind → Bool
  | .query | .insert | .copy | .update | .delete | .explain | .createTable | .createView
  | .createIndex | .alterTable | .dropTable | .dropView | .dropIndex => true
  | _ => false

/-- The name of the record that a node of this kind is shown as. It differs from the name of
the kind where that would be ambiguous or is taken. -/
def recordName : Kind → String
  | .unary => "UnaryExpr"
  | .copy => "CopyStatement"
  | k => k.name

/-- A kind is shown by its name. -/
def dump (k : Kind) : Dump :=
  .word k.name

/-- Reads a kind from its name, or from a map whose only key is the name and whose value is
null. The name is judged before the value. -/
def ofDatum : Datum → Except DatumError Kind
  | .text name => ofVariant name
  | .map [(name, payload)] => do
    let k ← ofVariant name
    match payload with
    | .null => return k
    | d => throw (.wrongType d "unit")
  | .map entries => .error (.wrongValue (.map entries) "map with a single key")
  | d => .error (.wrongType d "string or map")
where
  /-- The kind with a given name, or the refusal that lists all names. -/
  ofVariant (name : String) : Except DatumError Kind :=
    match ofName? name with
    | some k => .ok k
    | none => .error (.unknownVariant name (all.map Kind.name))

end Kind

end SqlTree
