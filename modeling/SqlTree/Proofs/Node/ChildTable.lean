import Mathlib
import SqlTree.Proofs.Walk.Nesting

/-!
# The child-order table as a specification

The table says for every built-in kind which fields hold the children of its nodes, in which
order, and how many of them each field holds. It is given here as data, in slots that say both,
and is read without the walker: a slot is looked up in the node by the name of its field, and the
nodes in it are taken as the slot says. A slot that does not fit the field has no reading.

* `childTable` is the table; `Slot.nodes?` reads a slot of a node.
* `Slot.nodesIn?_eq_some_held`: a slot that fits the type of a field has a reading, and it is the
  list of all nodes in the field.
* `Kind.agreesWithTable` checks a kind against its row, field by field.
* `Part.nodes` and `Parts.part` read the fields of a dialect node, whose row is registered.

Main statement: `Walker.children_eq_table`.
-/

set_option autoImplicit false

namespace SqlTree

/-! ### The table -/

/-- A place in a row of the table: a field, and how it holds its nodes. -/
inductive Slot where
  /-- A field with one node. -/
  | one (field : String)
  /-- A field that may be absent, and otherwise has one node. -/
  | optional (field : String)
  /-- A list with one node for each item. -/
  | each (field : String)
  /-- A list of arms, each with a condition and a result. -/
  | arms (field : String)
  /-- A list of rows, each with one node for each item. -/
  | rows (field : String)
  deriving DecidableEq

/-- The name of the field. -/
def Slot.field : Slot → String
  | one field | optional field | each field | arms field | rows field => field

/-- The rows of the table, each with the kinds that it is for. -/
def childTable : List (List Kind × List Slot) :=
  [([.ident, .wildcard, .value, .operator, .dataType, .windowFrameUnits, .windowFrameBound,
      .setOperator, .joinType, .notNullColumnSpec, .uniqueColumnSpec, .dropDefaultColumnAction,
      .setNotNullColumnAction, .dropNotNullColumnAction], []),
   ([.identifier], [.one "ident"]),
   ([.compoundIdentifier, .objectName], [.each "idents"]),
   ([.isNull, .isNotNull], [.one "expr"]),
   ([.inList], [.one "expr", .each "list"]),
   ([.inSubquery], [.one "expr", .one "subquery"]),
   ([.between], [.one "expr", .one "low", .one "high"]),
   ([.binaryExpr], [.one "left", .one "op", .one "right"]),
   ([.unary], [.one "op", .one "expr"]),
   ([.cast], [.one "expr", .one "data_type"]),
   ([.nested], [.one "expr"]),
   ([.function], [.one "name", .each "args", .optional "over"]),
   ([.caseExpr], [.optional "operand", .arms "whens", .optional "else_result"]),
   ([.existsExpr, .subquery], [.one "query"]),
   ([.windowSpec], [.each "partition_by", .each "order_by", .optional "window_frame"]),
   ([.windowFrame], [.one "units", .one "start_bound", .optional "end_bound"]),
   ([.query], [.each "ctes", .one "body", .each "order_by", .optional "limit"]),
   ([.cte], [.one "alias", .one "query"]),
   ([.select], [.each "projection", .each "from", .optional "selection", .each "group_by",
      .optional "having"]),
   ([.whereClause], [.one "condition"]),
   ([.values], [.rows "rows"]),
   ([.setOperation], [.one "left", .one "op", .one "right"]),
   ([.unnamedExpression], [.one "expr"]),
   ([.expressionWithAlias], [.one "expr", .one "alias"]),
   ([.qualifiedWildcard], [.one "prefix"]),
   ([.orderByExpr], [.one "expr"]),
   ([.limit], [.optional "limit_value", .optional "offset"]),
   ([.table], [.one "name", .optional "alias", .each "args", .each "with_hints"]),
   ([.derived], [.one "subquery", .optional "alias"]),
   ([.qualifiedJoin], [.one "left", .one "join_type", .one "right", .one "spec"]),
   ([.naturalJoin], [.one "left", .one "join_type", .one "right"]),
   ([.crossJoin], [.one "left", .one "right"]),
   ([.joinCondition], [.one "search_condition"]),
   ([.namedColumnsJoin], [.each "columns"]),
   ([.insert], [.one "table_name", .each "columns", .optional "source"]),
   ([.copy], [.one "table_name", .each "columns"]),
   ([.update], [.one "table_name", .each "assignments", .optional "selection"]),
   ([.delete], [.one "table_name", .optional "selection"]),
   ([.assignment], [.one "id", .one "value"]),
   ([.createView], [.one "name", .one "query"]),
   ([.createTable], [.one "name", .each "elements"]),
   ([.createIndex], [.optional "index_name", .one "table_name", .optional "method_name",
      .each "column_names", .optional "selection"]),
   ([.alterTable], [.one "table_name", .one "action"]),
   ([.dropTable, .dropView], [.each "names"]),
   ([.dropIndex], [.each "index_names"]),
   ([.explain], [.one "stmt"]),
   ([.columnDef], [.one "name", .one "data_type", .optional "default", .each "constraints"]),
   ([.columnConstraint, .tableConstraint], [.optional "name", .one "spec"]),
   ([.uniqueTableConstraint], [.each "columns"]),
   ([.referentialTableConstraint], [.each "columns", .one "key_expr"]),
   ([.referenceKeyExpr], [.one "table_name", .each "columns"]),
   ([.checkTableConstraint, .checkColumnSpec], [.one "expr"]),
   ([.referencesColumnSpec], [.one "table_name", .each "columns"]),
   ([.addColumnTableAction], [.one "column"]),
   ([.alterColumnTableAction], [.one "column_name", .one "action"]),
   ([.setDefaultColumnAction], [.one "default"]),
   ([.alterDataTypeColumnAction], [.one "data_type"]),
   ([.removeColumnTableAction, .dropConstraintTableAction], [.one "name"]),
   ([.addConstraintTableAction], [.one "constraint"])]

/-! ### Reading a slot -/

/-- The node in something that is one. -/
def Content.single? (place : Place) : {τ : FieldType} → Content τ → Option (List Handle)
  | .inline k, .inline node => some [⟨place, k, node⟩]
  | _, .ref cell k _ node => some [⟨.cell cell, k, node⟩]
  | _, _ => none

/-- The condition and the result of an arm. -/
def Content.pair? (place : Place) : {τ : FieldType} → Content τ → Option (List Handle)
  | _, .arm condition result =>
    (condition.single? place).bind fun c => (result.single? place).map fun r => c ++ r
  | _, _ => none

/-- The nodes in the items of a list, item by item. -/
def Content.items? (item? : Place → {τ : FieldType} → Content τ → Option (List Handle)) :
    {τ : FieldType} → Content τ → Option (List Handle)
  | _, .list block items =>
    (items.toList.zipIdx.mapM fun x => item? (.item block x.2) x.1).map List.flatten
  | _, _ => none

/-- The nodes in a row, item by item. -/
def Content.row? (_ : Place) {τ : FieldType} (x : Content τ) : Option (List Handle) :=
  x.items? Content.single?

/-- The nodes in a field, taken as the slot says. -/
def Slot.nodesIn? (place : Place) : Slot → {τ : FieldType} → Content τ → Option (List Handle)
  | one _, _, x => x.single? place
  | optional _, _, .absent => some []
  | optional _, _, .present x => x.single? place
  | each _, _, x => x.items? Content.single?
  | arms _, _, x => x.items? Content.pair?
  | rows _, _, x => x.items? Content.row?
  | _, _, _ => none

/-- The contents of the first field with the given name. -/
def Fields.content? (name : String) :
    {fs : List FieldDecl} → Fields fs → Option ((τ : FieldType) × Content τ)
  | _, .nil => none
  | (n, τ) :: _, .cons content rest => if n = name then some ⟨τ, content⟩ else rest.content? name

/-- The contents of the field of a built-in node with the given name. -/
def Body.content? (name : String) : {s : Shape} → Body s → Option ((τ : FieldType) × Content τ)
  | _, .form fields => fields.content? name
  | _, _ => none

/-- The nodes in a slot of a node. -/
def Slot.nodes? (slot : Slot) (h : Handle) : Option (List Handle) :=
  (h.node.content? slot.field).bind fun x => slot.nodesIn? (.field h.place slot.field) x.2

/-! ### A slot that fits reads all nodes -/

/-- Whether a field of this type is one node. -/
def FieldType.isSingle : FieldType → Bool
  | inline _ | ref _ => true
  | _ => false

/-- Whether a slot fits the type of a field. -/
def Slot.fits : Slot → FieldType → Bool
  | one _, τ => τ.isSingle
  | optional _, .optional τ => τ.isSingle
  | each _, .list τ => τ.isSingle
  | arms _, .list .arm => true
  | rows _, .list (.list τ) => τ.isSingle
  | _, _ => false

theorem Content.single?_eq_some_held (place : Place) : {τ : FieldType} → (x : Content τ) →
    τ.isSingle = true → x.single? place = some (x.held place)
  | .inline _, .inline _, _ => rfl
  | .ref _, .ref _ _ _ _, _ => rfl

theorem Content.pair?_eq_some_held (place : Place) :
    (x : Content .arm) → x.pair? place = some (x.held place)
  | .arm condition result => by
    rw [pair?, held, condition.single?_eq_some_held place rfl,
      result.single?_eq_some_held place rfl]
    rfl

/-- If the items are read in full, so is the list, from any index on. -/
theorem Items.mapM_zipIdx_eq_some {τ : FieldType} (block : Nat)
    {item? : Place → {τ : FieldType} → Content τ → Option (List Handle)}
    (hitem : ∀ place (x : Content τ), item? place x = some (x.held place)) :
    (xs : Items τ) → (index : Nat) →
    ((xs.toList.zipIdx index).mapM fun x => item? (.item block x.2) x.1).map List.flatten =
      some (xs.held block index)
  | .nil, index => rfl
  | .cons head tail, index => by
    have ih := tail.mapM_zipIdx_eq_some block hitem (index + 1)
    obtain ⟨lists, hlists, hflatten⟩ := Option.map_eq_some_iff.1 ih
    rw [toList, List.zipIdx_cons, List.mapM_cons, hlists, hitem, held, ← hflatten]
    rfl

theorem Content.items?_eq_some_held {τ : FieldType}
    {item? : Place → {τ : FieldType} → Content τ → Option (List Handle)}
    (hitem : ∀ place (x : Content τ), item? place x = some (x.held place)) (place : Place) :
    (x : Content (.list τ)) → x.items? item? = some (x.held place)
  | .list block items => items.mapM_zipIdx_eq_some block hitem 0

theorem Content.each?_eq_some_held {τ : FieldType} (hτ : τ.isSingle = true) (place : Place)
    (x : Content (.list τ)) : x.items? Content.single? = some (x.held place) :=
  x.items?_eq_some_held (fun place y => y.single?_eq_some_held place hτ) place

/-- **A slot that fits a field reads all nodes in it.** -/
theorem Slot.nodesIn?_eq_some_held (slot : Slot) {τ : FieldType} (hfits : slot.fits τ = true)
    (place : Place) (x : Content τ) : slot.nodesIn? place x = some (x.held place) := by
  cases slot with
  | one field => exact x.single?_eq_some_held place hfits
  | optional field =>
    cases x with
    | absent => rfl
    | present x => exact x.single?_eq_some_held place hfits
    | _ => cases hfits
  | each field =>
    cases τ with
    | list τ => exact x.each?_eq_some_held hfits place
    | _ => cases hfits
  | arms field =>
    cases τ with
    | list τ =>
      cases τ with
      | arm => exact x.items?_eq_some_held Content.pair?_eq_some_held place
      | _ => cases hfits
    | _ => cases hfits
  | rows field =>
    cases τ with
    | list τ =>
      cases τ with
      | list τ =>
        -- a row is a list of single nodes, and the list of rows is read row by row
        exact x.items?_eq_some_held (fun place row => row.each?_eq_some_held hfits place) place
      | _ => cases hfits
    | _ => cases hfits

/-- Looking up the contents of a field follows the declarations. -/
theorem Fields.exists_content? (owner : Place) {name : String} {τ : FieldType} :
    {fs : List FieldDecl} → (xs : Fields fs) → fs.lookup name = some τ →
    ∃ x : Content τ, xs.content? name = some ⟨τ, x⟩ ∧
      xs.heldAt owner name = x.held (.field owner name)
  | [], .nil, hτ => by cases hτ
  | (n, τ') :: fs, .cons content rest, hτ => by
    rw [List.lookup_cons] at hτ
    by_cases hn : n = name
    · subst hn
      simp only [beq_self_eq_true] at hτ
      cases hτ
      exact ⟨content, by simp [content?], by simp [heldAt]⟩
    · rw [beq_eq_false_iff_ne.2 (Ne.symm hn)] at hτ
      obtain ⟨x, hx, hheld⟩ := rest.exists_content? owner hτ
      exact ⟨x, by simp [content?, hn, hx], by simp [heldAt, hn, hheld]⟩

theorem Body.exists_content? (owner : Place) {name : String} {τ : FieldType} {s : Shape}
    (n : Body s) (hτ : s.fields.lookup name = some τ) :
    ∃ x : Content τ, n.content? name = some ⟨τ, x⟩ ∧
      n.heldAt owner name = x.held (.field owner name) := by
  cases n with
  | atom data => cases hτ
  | form fields => exact fields.exists_content? owner hτ
  | dialect kind shown parts => cases hτ

/-- Reading a slot that fits its field. -/
theorem Slot.nodes?_eq_some_heldAt (slot : Slot) {h : Handle} {τ : FieldType}
    (hτ : h.kind.shape.fields.lookup slot.field = some τ) (hfits : slot.fits τ = true) :
    slot.nodes? h = some (h.heldAt slot.field) := by
  obtain ⟨x, hx, hheld⟩ := Body.exists_content? h.place h.node hτ
  rw [nodes?, hx, Handle.heldAt, hheld]
  exact slot.nodesIn?_eq_some_held hfits _ x

/-! ### The kinds agree with the table -/

/-- A kind has one row, the slots of the row fit the declared fields and name the fields that the
walk takes, and every field that can hold nodes has one slot. -/
def Kind.agreesWithTable (k : Kind) : Bool :=
  match childTable.filter fun row => row.1.contains k with
  | [(_, slots)] =>
    slots.map Slot.field == k.childOrder &&
    slots.all (fun slot => (k.shape.fields.lookup slot.field).any slot.fits) &&
    k.shape.fields.all fun f => !f.2.holdsNodes || (slots.map Slot.field).count f.1 == 1
  | _ => false

theorem Kind.agreesWithTable_of_ne_dialect {k : Kind} (hk : k ≠ .dialect) :
    k.agreesWithTable = true := by
  have hall : ∀ k ∈ all, k ≠ .dialect → k.agreesWithTable = true := by decide +kernel
  exact hall k (mem_all k) hk

/-- What agreement with the table comes to, slot by slot. -/
theorem Kind.exists_row_of_ne_dialect {k : Kind} (hk : k ≠ .dialect) :
    ∃ kinds slots, (childTable.filter fun row => row.1.contains k) = [(kinds, slots)] ∧
      slots.map Slot.field = k.childOrder ∧
      (∀ slot ∈ slots, ∃ τ, k.shape.fields.lookup slot.field = some τ ∧ slot.fits τ = true) ∧
      ∀ f ∈ k.shape.fields, f.2.holdsNodes = true → (slots.map Slot.field).count f.1 = 1 := by
  have hagrees := agreesWithTable_of_ne_dialect hk
  rw [agreesWithTable] at hagrees
  split at hagrees
  case h_1 kinds slots hrow =>
    simp only [Bool.and_eq_true, beq_iff_eq, List.all_eq_true] at hagrees
    obtain ⟨⟨hnames, hfits⟩, hcount⟩ := hagrees
    refine ⟨kinds, slots, hrow, hnames, fun slot hslot => ?_, fun f hf hholds => ?_⟩
    · exact (Option.any_eq_true _ _).1 (hfits slot hslot)
    · simpa [hholds] using hcount f hf
  case h_2 => cases hagrees

/-! ### Fields of dialect nodes -/

/-- The node that a reference refers to. -/
def Content.target {t : Target} : Content (.ref t) → Handle
  | .ref cell k _ node => ⟨.cell cell, k, node⟩

/-- The nodes in a field of a dialect node: none, one, or all in order. -/
def Part.nodes : Part → List Handle
  | absent => []
  | one node => [node.target]
  | many nodes => nodes.toList.map Content.target

/-- The field of a dialect node with the given name. A name that the node does not have is
absent. -/
def Parts.part (name : String) : Parts → Part
  | nil => .absent
  | cons n part rest => if n = name then part else rest.part name

theorem Content.held_eq_target {t : Target} (place : Place) :
    (x : Content (.ref t)) → x.held place = [x.target]
  | .ref _ _ _ _ => rfl

theorem Items.held_eq_map_target {t : Target} (block : Nat) : (xs : Items (.ref t)) →
    (index : Nat) → xs.held block index = xs.toList.map Content.target
  | .nil, _ => rfl
  | .cons head tail, index => by
    rw [held, head.held_eq_target, tail.held_eq_map_target block (index + 1)]
    rfl

theorem Part.held_eq_nodes (place : Place) (x : Part) : x.held place = x.nodes := by
  cases x with
  | absent => rfl
  | one node => exact node.held_eq_target place
  | many nodes => exact nodes.held_eq_map_target 0 0

/-- The nodes in a field of a dialect node are as many as the field is long. -/
theorem Part.length_nodes (x : Part) : x.nodes.length = x.length := by
  cases x with
  | absent => rfl
  | one node => rfl
  | many nodes => exact List.length_map ..

theorem Parts.heldAt_eq_nodes (owner : Place) (name : String) :
    (xs : Parts) → xs.heldAt owner name = (xs.part name).nodes
  | .nil => rfl
  | .cons n part rest => by
    rw [heldAt, Parts.part]
    split
    · exact part.held_eq_nodes _
    · exact rest.heldAt_eq_nodes owner name

/-! ### The children are those of the table -/

/-- Slots that are read one by one. -/
theorem mapM_nodes?_eq_some {h : Handle} {slots : List Slot}
    (hfits : ∀ slot ∈ slots, ∃ τ, h.kind.shape.fields.lookup slot.field = some τ ∧
      slot.fits τ = true) :
    slots.mapM (·.nodes? h) = some (slots.map fun slot => h.heldAt slot.field) := by
  induction slots with
  | nil => rfl
  | cons slot slots ih =>
    obtain ⟨τ, hτ, hslot⟩ := hfits slot List.mem_cons_self
    have hrest := ih fun slot' hslot' => hfits slot' (List.mem_cons_of_mem slot hslot')
    rw [List.mapM_cons, slot.nodes?_eq_some_heldAt hτ hslot, hrest]
    rfl

namespace Walker

/-- **The children of a node are those of the table.** For a built-in kind, which has exactly one
row, they are the nodes in the slots of the row, slot by slot, and every field that can hold nodes
is in exactly one slot. For a dialect node they are the nodes in the fields of the registered
order, name by name and with repeats, so there are as many of them as these fields are long. -/
theorem children_eq_table (w : Walker) :
    (∀ h : Handle, h.kind ≠ .dialect → ∃ kinds slots lists,
      (childTable.filter fun row => row.1.contains h.kind) = [(kinds, slots)] ∧
      slots.mapM (·.nodes? h) = some lists ∧ w.children h = .ok lists.flatten ∧
      (h.kind.shape.fields.map Prod.fst).Nodup ∧
      ∀ f ∈ h.kind.shape.fields, f.2.holdsNodes = true →
        (slots.map Slot.field).count f.1 = 1) ∧
    (∀ place kind shown parts order, w.registry.childOrder kind = some order →
      w.children ⟨place, .dialect, .dialect kind shown parts⟩ =
        .ok (order.flatMap fun name => (parts.part name).nodes) ∧
      (order.flatMap fun name => (parts.part name).nodes).length =
        (order.map fun name => (parts.part name).length).sum) := by
  constructor
  · intro h hk
    obtain ⟨kinds, slots, hrow, hnames, hfits, hcount⟩ := Kind.exists_row_of_ne_dialect hk
    refine ⟨kinds, slots, _, hrow, mapM_nodes?_eq_some hfits, ?_, h.kind.nodup_fields, hcount⟩
    rw [children_eq, w.row_of_ne_dialect hk, ← hnames, Except.map, List.flatMap_map,
      List.flatMap_def]
  · intro place kind shown parts order horder
    have hrow : w.row ⟨place, .dialect, .dialect kind shown parts⟩ = .ok order := by
      simp [row, Handle.dialectKind?, horder]
    have hheld : (Handle.heldAt ⟨place, .dialect, .dialect kind shown parts⟩) =
        fun name => (parts.part name).nodes :=
      funext fun name => parts.heldAt_eq_nodes place name
    refine ⟨by rw [children_eq, hrow, hheld]; rfl, ?_⟩
    rw [List.length_flatMap]
    simp only [Part.length_nodes]

/-- A walker whose row for the kind of the hint names one field twice, and one that
no node has. -/
def hintingTwice : Walker where
  registry := .ofEntries [("hint", ["name", "other", "name"])]

/-- The table at the clause and at its hint. -/
theorem children_eq_table_hinted :
    Handle.hinted.kind ≠ .dialect ∧
    (∃ kinds slots lists,
      (childTable.filter fun row => row.1.contains Handle.hinted.kind) = [(kinds, slots)] ∧
      slots.mapM (·.nodes? .hinted) = some lists ∧
      hintingTwice.children .hinted = .ok lists.flatten ∧
      (Handle.hinted.kind.shape.fields.map Prod.fst).Nodup ∧
      ∀ f ∈ Handle.hinted.kind.shape.fields, f.2.holdsNodes = true →
        (slots.map Slot.field).count f.1 = 1) ∧
    hintingTwice.registry.childOrder "hint" = some ["name", "other", "name"] ∧
    hintingTwice.children ⟨.cell 1, .dialect, .hint .hinted⟩ =
      .ok (["name", "other", "name"].flatMap fun name => (Parts.hinted.part name).nodes) := by
  have hkind : Handle.hinted.kind ≠ .dialect := by decide
  have horder : hintingTwice.registry.childOrder "hint" = some ["name", "other", "name"] := by
    decide
  exact ⟨hkind, (children_eq_table hintingTwice).1 .hinted hkind, horder,
    ((children_eq_table hintingTwice).2 (.cell 1) "hint" _ .hinted _ horder).1⟩

end Walker

end SqlTree
