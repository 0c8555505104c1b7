import SqlTree.Node.Basic

/-!
# Dumps of nodes

A node is shown as a record of its fields, in the order of their declaration, whether they hold
nodes or data. A node that is part of another is shown in place. A reference shows the variant
of its category around the record. A dialect node brings its own dump.
-/

set_option autoImplicit false

namespace SqlTree

mutual

/-- The record of a node, under the given name. -/
def Body.dump (name : String) : {s : Shape} → Body s → Dump
  | .atom t, .atom data => t.dump data
  | _, .form fields => .record name fields.dump
  | _, .dialect _ shown _ => shown

/-- The fields of a form, with their names. -/
def Fields.dump : {fs : List FieldDecl} → Fields fs → List (String × Dump)
  | _, .nil => []
  | (n, _) :: _, .cons content rest => (n, content.dump) :: rest.dump

/-- What a field holds. -/
def Content.dump : {τ : FieldType} → Content τ → Dump
  | _, .flag value => .bool value
  | _, .choice value => .option (value.map .bool)
  | _, .lines values =>
    .list (values.map fun line => .option (line.map fun s => .word (Text.quoted s)))
  | .inline k, .inline node => node.dump k.recordName
  | .ref t, .ref _ k _ node =>
    match t.variantName? k with
    | some variant => .variant variant [node.dump k.recordName]
    | none => node.dump k.recordName
  | _, .arm condition result =>
    .record "CaseWhen" [("condition", condition.dump), ("result", result.dump)]
  | _, .absent => .option none
  | _, .present content => .option (some content.dump)
  | _, .list _ items => .list items.dump

/-- The items of a list, one by one. -/
def Items.dump : {τ : FieldType} → Items τ → List Dump
  | _, .nil => []
  | _, .cons head tail => head.dump :: tail.dump

end

/-- The record of a node. -/
def Node.dump {k : Kind} (n : Node k) : Dump :=
  Body.dump k.recordName n

/-- A field of a dialect node, as a variant. -/
def Part.dump : Part → Dump
  | absent => .word "Absent"
  | one node => .variant "One" [node.dump]
  | many nodes => .variant "Many" [.list nodes.dump]

end SqlTree
