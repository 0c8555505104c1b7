import SqlTree.Kind

/-!
# The child-order table

For every built-in kind, the names of the fields that hold its children, in the order in which
a walk takes them: the order of the source text. Optional fields that are absent and empty lists
contribute nothing; a list contributes its items one by one.

The row of a dialect node is not in this table. It comes from the registry of the walker.
-/

set_option autoImplicit false

namespace SqlTree

/-- The row of a built-in kind. -/
def Kind.childOrder : Kind → List String
  | .ident | .wildcard | .value | .operator | .dataType | .windowFrameUnits | .windowFrameBound
  | .setOperator | .joinType | .notNullColumnSpec | .uniqueColumnSpec | .dropDefaultColumnAction
  | .setNotNullColumnAction | .dropNotNullColumnAction => []
  | .identifier => ["ident"]
  | .compoundIdentifier | .objectName => ["idents"]
  | .isNull | .isNotNull => ["expr"]
  | .inList => ["expr", "list"]
  | .inSubquery => ["expr", "subquery"]
  | .between => ["expr", "low", "high"]
  | .binaryExpr => ["left", "op", "right"]
  | .unary => ["op", "expr"]
  | .cast => ["expr", "data_type"]
  | .nested => ["expr"]
  | .function => ["name", "args", "over"]
  | .caseExpr => ["operand", "whens", "else_result"]
  | .existsExpr | .subquery => ["query"]
  | .windowSpec => ["partition_by", "order_by", "window_frame"]
  | .windowFrame => ["units", "start_bound", "end_bound"]
  | .query => ["ctes", "body", "order_by", "limit"]
  | .cte => ["alias", "query"]
  | .select => ["projection", "from", "selection", "group_by", "having"]
  | .whereClause => ["condition"]
  | .values => ["rows"]
  | .setOperation => ["left", "op", "right"]
  | .unnamedExpression => ["expr"]
  | .expressionWithAlias => ["expr", "alias"]
  | .qualifiedWildcard => ["prefix"]
  | .orderByExpr => ["expr"]
  | .limit => ["limit_value", "offset"]
  | .table => ["name", "alias", "args", "with_hints"]
  | .derived => ["subquery", "alias"]
  | .qualifiedJoin => ["left", "join_type", "right", "spec"]
  | .naturalJoin => ["left", "join_type", "right"]
  | .crossJoin => ["left", "right"]
  | .joinCondition => ["search_condition"]
  | .namedColumnsJoin => ["columns"]
  | .insert => ["table_name", "columns", "source"]
  | .copy => ["table_name", "columns"]
  | .update => ["table_name", "assignments", "selection"]
  | .delete => ["table_name", "selection"]
  | .assignment => ["id", "value"]
  | .explain => ["stmt"]
  | .createTable => ["name", "elements"]
  | .createView => ["name", "query"]
  | .createIndex => ["index_name", "table_name", "method_name", "column_names", "selection"]
  | .alterTable => ["table_name", "action"]
  | .dropTable | .dropView => ["names"]
  | .dropIndex => ["index_names"]
  | .columnDef => ["name", "data_type", "default", "constraints"]
  | .columnConstraint | .tableConstraint => ["name", "spec"]
  | .referencesColumnSpec => ["table_name", "columns"]
  | .checkColumnSpec | .checkTableConstraint => ["expr"]
  | .uniqueTableConstraint => ["columns"]
  | .referentialTableConstraint => ["columns", "key_expr"]
  | .referenceKeyExpr => ["table_name", "columns"]
  | .addColumnTableAction => ["column"]
  | .alterColumnTableAction => ["column_name", "action"]
  | .removeColumnTableAction | .dropConstraintTableAction => ["name"]
  | .addConstraintTableAction => ["constraint"]
  | .setDefaultColumnAction => ["default"]
  | .alterDataTypeColumnAction => ["data_type"]
  | .dialect => []

end SqlTree
