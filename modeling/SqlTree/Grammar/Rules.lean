import SqlTree.Grammar.Shape

/-!
# The grammar

The shape of every kind: its fields in the order in which they are declared, with their names
and types. Which of the fields are walked, and in which order, is a separate matter: see
`SqlTree.Grammar.ChildOrder`.
-/

set_option autoImplicit false

namespace SqlTree

namespace FieldType

/-- A reference to an expression. -/
abbrev expr : FieldType := ref (.member .expr)

/-- A reference to a query. -/
abbrev query : FieldType := ref (.only .query)

/-- A name that is part of its owner. -/
abbrev ident : FieldType := inline .ident

/-- A dotted name that is part of its owner. -/
abbrev objectName : FieldType := inline .objectName

/-- A `WHERE` clause that may be absent. -/
abbrev selection : FieldType := optional (inline .whereClause)

end FieldType

/-- The shape of a kind. -/
def Kind.shape : Kind → Shape
  | .ident => .atom .ident
  | .identifier => .form [("ident", .ident)]
  | .compoundIdentifier => .form [("idents", .list .ident)]
  | .objectName => .form [("idents", .list .ident)]
  | .wildcard => .form []
  | .value => .atom .value
  | .operator => .atom .operator
  | .dataType => .atom .dataType
  | .isNull => .form [("expr", .expr)]
  | .isNotNull => .form [("expr", .expr)]
  | .inList => .form [("expr", .expr), ("list", .list .expr), ("negated", .flag)]
  | .inSubquery => .form [("expr", .expr), ("subquery", .query), ("negated", .flag)]
  | .between => .form [("expr", .expr), ("negated", .flag), ("low", .expr), ("high", .expr)]
  | .binaryExpr => .form [("left", .expr), ("op", .inline .operator), ("right", .expr)]
  | .unary => .form [("op", .inline .operator), ("expr", .expr)]
  | .cast => .form [("expr", .expr), ("data_type", .inline .dataType)]
  | .nested => .form [("expr", .expr)]
  | .function =>
    .form [("name", .objectName), ("args", .list .expr), ("over", .optional (.inline .windowSpec)),
      ("distinct", .flag)]
  | .caseExpr =>
    .form [("operand", .optional .expr), ("whens", .list .arm), ("else_result", .optional .expr)]
  | .existsExpr => .form [("query", .query), ("negated", .flag)]
  | .subquery => .form [("query", .query)]
  | .windowSpec =>
    .form [("partition_by", .list .expr), ("order_by", .list (.inline .orderByExpr)),
      ("window_frame", .optional (.inline .windowFrame))]
  | .windowFrame =>
    .form [("units", .inline .windowFrameUnits), ("start_bound", .inline .windowFrameBound),
      ("end_bound", .optional (.inline .windowFrameBound))]
  | .windowFrameUnits => .atom .frameUnits
  | .windowFrameBound => .atom .frameBound
  | .query =>
    .form [("ctes", .list (.inline .cte)), ("body", .ref (.member .setExpr)),
      ("order_by", .list (.inline .orderByExpr)), ("limit", .optional (.inline .limit))]
  | .cte => .form [("alias", .ident), ("query", .query)]
  | .select =>
    .form [("distinct", .flag), ("projection", .list (.ref (.member .selectItem))),
      ("from", .list (.ref (.member .tableReference))), ("selection", .selection),
      ("group_by", .list .expr), ("having", .optional .expr)]
  | .whereClause => .form [("condition", .expr)]
  | .values => .form [("rows", .list (.list .expr))]
  | .setOperation =>
    .form [("left", .ref (.member .setExpr)), ("op", .inline .setOperator),
      ("right", .ref (.member .setExpr))]
  | .setOperator => .atom .setOperator
  | .unnamedExpression => .form [("expr", .expr)]
  | .expressionWithAlias => .form [("expr", .expr), ("alias", .ident)]
  | .qualifiedWildcard => .form [("prefix", .objectName)]
  | .orderByExpr => .form [("expr", .expr), ("asc", .choice), ("nulls_first", .choice)]
  | .limit => .form [("all", .flag), ("limit_value", .optional .expr), ("offset", .optional .expr)]
  | .table =>
    .form [("name", .objectName), ("alias", .optional .ident), ("args", .list .expr),
      ("with_hints", .list .expr)]
  | .derived => .form [("lateral", .flag), ("subquery", .query), ("alias", .optional .ident)]
  | .qualifiedJoin =>
    .form [("left", .ref (.member .tableReference)), ("join_type", .inline .joinType),
      ("right", .ref (.member .tableReference)), ("spec", .ref (.member .joinSpec))]
  | .naturalJoin =>
    .form [("left", .ref (.member .tableReference)), ("join_type", .inline .joinType),
      ("right", .ref (.member .tableReference))]
  | .crossJoin =>
    .form [("left", .ref (.member .tableReference)), ("right", .ref (.member .tableReference))]
  | .joinType => .atom .joinType
  | .joinCondition => .form [("search_condition", .expr)]
  | .namedColumnsJoin => .form [("columns", .list .ident)]
  | .insert =>
    .form [("table_name", .objectName), ("columns", .list .ident), ("source", .optional .query)]
  | .copy => .form [("table_name", .objectName), ("columns", .list .ident), ("values", .lines)]
  | .update =>
    .form [("table_name", .objectName), ("assignments", .list (.inline .assignment)),
      ("selection", .selection)]
  | .delete => .form [("table_name", .objectName), ("selection", .selection)]
  | .assignment => .form [("id", .ident), ("value", .expr)]
  | .explain => .form [("stmt", .ref (.member .statement))]
  | .createTable =>
    .form [("name", .objectName), ("elements", .list (.ref (.member .tableElement))),
      ("if_not_exists", .flag)]
  | .createView => .form [("name", .objectName), ("query", .query), ("materialized", .flag)]
  | .createIndex =>
    .form [("index_name", .optional .ident), ("table_name", .objectName),
      ("method_name", .optional .ident), ("column_names", .list .ident), ("unique", .flag),
      ("selection", .selection)]
  | .alterTable =>
    .form [("table_name", .objectName), ("action", .ref (.member .alterTableAction))]
  | .dropTable => .form [("names", .list .objectName), ("if_exists", .flag), ("cascade", .flag)]
  | .dropView => .form [("names", .list .objectName), ("if_exists", .flag), ("cascade", .flag)]
  | .dropIndex => .form [("index_names", .list .ident)]
  | .columnDef =>
    .form [("name", .ident), ("data_type", .inline .dataType), ("default", .optional .expr),
      ("constraints", .list (.inline .columnConstraint))]
  | .columnConstraint =>
    .form [("name", .optional .ident), ("spec", .ref (.member .columnConstraintSpec))]
  | .notNullColumnSpec => .form []
  | .uniqueColumnSpec => .form [("is_primary", .flag)]
  | .referencesColumnSpec => .form [("table_name", .objectName), ("columns", .list .ident)]
  | .checkColumnSpec => .form [("expr", .expr)]
  | .tableConstraint =>
    .form [("name", .optional .ident), ("spec", .ref (.member .tableConstraintSpec))]
  | .uniqueTableConstraint => .form [("is_primary", .flag), ("columns", .list .ident)]
  | .referentialTableConstraint =>
    .form [("columns", .list .ident), ("key_expr", .inline .referenceKeyExpr)]
  | .referenceKeyExpr => .form [("table_name", .ident), ("columns", .list .ident)]
  | .checkTableConstraint => .form [("expr", .expr)]
  | .addColumnTableAction => .form [("column", .inline .columnDef)]
  | .alterColumnTableAction =>
    .form [("column_name", .ident), ("action", .ref (.member .alterColumnAction))]
  | .removeColumnTableAction => .form [("name", .ident), ("cascade", .flag)]
  | .addConstraintTableAction => .form [("constraint", .inline .tableConstraint)]
  | .dropConstraintTableAction => .form [("name", .ident), ("cascade", .flag)]
  | .setDefaultColumnAction => .form [("default", .expr)]
  | .dropDefaultColumnAction => .form []
  | .alterDataTypeColumnAction => .form [("data_type", .inline .dataType)]
  | .setNotNullColumnAction => .form []
  | .dropNotNullColumnAction => .form []
  | .dialect => .dialect

/-- No form declares a name twice. -/
theorem Kind.nodup_fields (k : Kind) : (k.shape.fields.map Prod.fst).Nodup := by
  have hall : ∀ k ∈ all, (k.shape.fields.map Prod.fst).Nodup := by decide +kernel
  exact hall k (mem_all k)

end SqlTree
