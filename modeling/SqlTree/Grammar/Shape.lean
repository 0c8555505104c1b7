import SqlTree.Grammar.Category
import SqlTree.Scalar.Combination
import SqlTree.Scalar.DataType
import SqlTree.Scalar.Ident
import SqlTree.Scalar.Operator
import SqlTree.Scalar.Value
import SqlTree.Scalar.WindowFrame

/-!
# Shapes

The *shape* of a kind says what a node of that kind consists of. An atom holds one piece of
data; a form has a fixed list of named fields; a dialect node brings its own fields.

A field may hold data, or nodes, and nodes are held in one of two ways. An *inline* node is part
of its owner and is copied with it. A *reference* leads to a node that is stored elsewhere and is
shared by all copies of the owner. Lists are stored elsewhere too, so copies share their items,
whichever way the items hold their nodes.

* `FieldType` is the type of a field, `Shape` the shape of a kind.
* `AtomType.Carrier` is the data of an atom.
-/

set_option autoImplicit false

namespace SqlTree

/-- The type of a field. -/
inductive FieldType where
  /-- A truth value. -/
  | flag
  /-- A truth value that may be left open. -/
  | choice
  /-- Raw lines of text, some of them null. -/
  | lines
  /-- A node that is part of its owner. -/
  | inline (k : Kind)
  /-- A node that is stored elsewhere. -/
  | ref (t : Target)
  /-- One arm of a case expression: a condition and a result, both stored elsewhere. -/
  | arm
  /-- Something that may be absent. -/
  | optional (τ : FieldType)
  /-- A list, stored elsewhere. -/
  | list (τ : FieldType)
  deriving DecidableEq, Repr

/-- Whether a field of this type can hold nodes. -/
def FieldType.holdsNodes : FieldType → Bool
  | flag | choice | lines => false
  | inline _ | ref _ | arm => true
  | optional τ | list τ => τ.holdsNodes

/-- A field of a form: its name and its type. -/
abbrev FieldDecl := String × FieldType

/-- The type of an atom. -/
inductive AtomType where
  | ident
  | value
  | operator
  | dataType
  | frameUnits
  | frameBound
  | setOperator
  | joinType
  deriving DecidableEq, Repr

namespace AtomType

/-- The data of an atom. -/
abbrev Carrier : AtomType → Type
  | ident => Ident
  | value => Value
  | operator => Operator
  | dataType => DataType
  | frameUnits => FrameUnits
  | frameBound => FrameBound
  | setOperator => SetOperator
  | joinType => JoinType

/-- The data of an atom, shown by its construction. -/
def dump : (t : AtomType) → t.Carrier → Dump
  | ident, i => i.dump
  | value, v => v.dump
  | operator, o => o.dump
  | dataType, d => d.dump
  | frameUnits, u => u.dump
  | frameBound, b => b.dump
  | setOperator, o => o.dump
  | joinType, j => j.dump

end AtomType

/-- What a node consists of. -/
inductive Shape where
  /-- One piece of data. -/
  | atom (t : AtomType)
  /-- A fixed list of fields. -/
  | form (fields : List FieldDecl)
  /-- Fields of its own, under a name of its own. -/
  | dialect
  deriving DecidableEq, Repr

/-- The fields of a shape. -/
def Shape.fields : Shape → List FieldDecl
  | form fields => fields
  | _ => []

end SqlTree
