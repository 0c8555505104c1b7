import SqlTree.Node.Dump

/-!
# Handles

A handle is a node together with the place where it is stored. Two handles are the same exactly
when they have the same kind and the same place; what the nodes hold does not count. A node that
is part of another has no place of its own: it is found through its owner.

* `Place` names the places, `Handle.same` compares two handles.
* `Handle.label` is a short text for a handle.
-/

set_option autoImplicit false

namespace SqlTree

/-- Where a node is stored. -/
inductive Place where
  /-- A place of its own, by its number. -/
  | cell (number : Nat)
  /-- An item of a stored list. -/
  | item (block index : Nat)
  /-- A field of the node at another place. -/
  | field (owner : Place) (name : String)
  deriving DecidableEq

/-- A node and the place where it is stored. -/
structure Handle where
  place : Place
  kind : Kind
  node : Node kind

namespace Handle

/-- Whether two handles are the same stored node. -/
def same (a b : Handle) : Bool :=
  a.kind == b.kind && a.place == b.place

/-- The size of the node. -/
def size (h : Handle) : Nat :=
  h.node.size

/-- The node as a variant named for its kind. -/
def dump (h : Handle) : Dump :=
  .variant h.kind.name [h.node.dump]

end Handle

/-! ### What nodes of certain kinds hold -/

/-- The name in an inline name. -/
def Content.ident : Content .ident → Ident
  | .inline (.atom i) => i

/-- The parts of a dotted name. -/
def Node.parts : Node .objectName → List Ident
  | .form (.cons (.list _ items) .nil) => items.toList.map Content.ident

/-- The units and bounds of a window frame. -/
def Node.frame : Node .windowFrame → FrameUnits × FrameBound × Option FrameBound
  | .form (.cons (.inline (.atom units)) (.cons (.inline (.atom start)) (.cons stop .nil))) =>
    match stop with
    | .absent => (units, start, none)
    | .present (.inline (.atom stop)) => (units, start, some stop)

namespace Handle

/-- The name, if the node is one. -/
def ident? : Handle → Option Ident
  | ⟨_, .ident, .atom i⟩ => some i
  | _ => none

/-- The name under which the form of a dialect node is declared. -/
def dialectKind? : Handle → Option String
  | ⟨_, .dialect, .dialect kind _ _⟩ => some kind
  | _ => none

/-- A short text for a handle: the name of its kind, followed by what an atom, a dotted name or
a dialect node is known by. -/
def label : Handle → String
  | ⟨_, .ident, .atom i⟩ => labelled "Ident" i.value
  | ⟨_, .objectName, n⟩ => labelled "ObjectName" (dottedName n.parts)
  | ⟨_, .value, .atom v⟩ => labelled "Value" v.dump.compact
  | ⟨_, .operator, .atom o⟩ => labelled "Operator" o.symbol
  | ⟨_, .dataType, .atom d⟩ => labelled "DataType" d.display
  | ⟨_, .windowFrameUnits, .atom u⟩ => labelled "WindowFrameUnits" u.dump.compact
  | ⟨_, .windowFrameBound, .atom b⟩ => labelled "WindowFrameBound" b.dump.compact
  | ⟨_, .setOperator, .atom o⟩ => labelled "SetOperator" o.dump.compact
  | ⟨_, .joinType, .atom j⟩ => labelled "JoinType" j.dump.compact
  | ⟨_, .dialect, .dialect kind _ _⟩ => labelled "Dialect" kind
  | h => h.kind.name
where
  /-- A name with a text in parentheses. -/
  labelled (name text : String) : String :=
    name ++ "(" ++ text ++ ")"

end Handle

end SqlTree
