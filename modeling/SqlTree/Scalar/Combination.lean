import SqlTree.Dump

/-!
# Combinations

How two queries are combined into one, and which rows without a partner a join keeps.
-/

set_option autoImplicit false

namespace SqlTree

/-- How two queries are combined, with or without duplicates. -/
inductive SetOperator where
  | union (all : Bool)
  | except (all : Bool)
  | intersect (all : Bool)
  deriving DecidableEq

/-- The operator as a record. -/
def SetOperator.dump : SetOperator → Dump
  | union all => .record "Union" [("all", .bool all)]
  | except all => .record "Except" [("all", .bool all)]
  | intersect all => .record "Intersect" [("all", .bool all)]

/-- Which rows without a partner a join keeps. -/
inductive JoinType where
  | inner | leftOuter | rightOuter | fullOuter
  deriving DecidableEq

/-- The join type by its name. -/
def JoinType.dump : JoinType → Dump
  | inner => .word "Inner"
  | leftOuter => .word "LeftOuter"
  | rightOuter => .word "RightOuter"
  | fullOuter => .word "FullOuter"

end SqlTree
