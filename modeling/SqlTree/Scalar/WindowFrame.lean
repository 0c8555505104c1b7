import SqlTree.Dump

/-!
# Window frames

What a window frame counts, and where it begins and ends.
-/

set_option autoImplicit false

namespace SqlTree

/-- What a window frame counts. -/
inductive FrameUnits where
  | rows | range | groups
  deriving DecidableEq

/-- The units by their name. -/
def FrameUnits.dump : FrameUnits → Dump
  | rows => .word "Rows"
  | range => .word "Range"
  | groups => .word "Groups"

/-- One end of a window frame. -/
inductive FrameBound where
  | currentRow
  | unboundedPreceding
  | unboundedFollowing
  | preceding (n : UInt64)
  | following (n : UInt64)
  deriving DecidableEq

/-- The bound as a variant. -/
def FrameBound.dump : FrameBound → Dump
  | currentRow => .word "CurrentRow"
  | unboundedPreceding => .word "UnboundedPreceding"
  | unboundedFollowing => .word "UnboundedFollowing"
  | preceding n => .variant "Preceding" [.word (toString n)]
  | following n => .variant "Following" [.word (toString n)]

end SqlTree
