import SqlTree.Dump
import SqlTree.Text.Quoted

/-!
# Failure of a walk

A walk fails in one way only: it descends into a dialect node whose kind has no row.
-/

set_option autoImplicit false

namespace SqlTree

/-- Why a walk fails. -/
inductive WalkError where
  /-- The kind of a dialect node has no row. -/
  | unregistered (kind : String)
  deriving DecidableEq

namespace WalkError

/-- The dialect kind without a row. -/
def kind : WalkError → String
  | unregistered kind => kind

/-- The wording of the failure. -/
def message : WalkError → String
  | unregistered kind =>
    "Traversal contract violation: node kind `" ++ kind ++ "` has no registered child order"

/-- The failure as a record. -/
def dump : WalkError → Dump
  | unregistered kind => .record "UnregisteredKind" [("kind", .word (Text.quoted kind))]

end WalkError

end SqlTree
