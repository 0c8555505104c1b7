import SqlTree.Node.Handle

/-!
# The arena

Trees are built in an arena, which hands out the places where nodes and lists are stored. A
place is never handed out twice. The arena also knows whether it holds any memory: it does once
it was given a capacity or something that takes up space was stored in it, and a reset keeps
that memory for later use.
-/

set_option autoImplicit false

namespace SqlTree

/-- The state of an arena. -/
structure Arena where
  /-- The number of the next place. -/
  next : Nat := 0
  /-- Whether the arena holds memory. -/
  holdsMemory : Bool := false

namespace Arena

/-- An arena with room for some bytes from the start. -/
def withCapacity (bytes : Nat) : Arena :=
  { holdsMemory := decide (0 < bytes) }

/-- Makes room for something of the given size. -/
def reserve (a : Arena) (bytes : Nat) : Arena :=
  { a with holdsMemory := a.holdsMemory || decide (0 < bytes) }

/-- Stores a text. -/
def storeText (a : Arena) (s : String) : Arena :=
  a.reserve s.utf8ByteSize

/-- Stores numbers of eight bytes each. -/
def storeNumbers (a : Arena) (count : Nat) : Arena :=
  a.reserve (8 * count)

/-- Frees everything that was stored, and keeps the memory. -/
def reset (a : Arena) : Arena := a

/-- A place that has not been handed out before. -/
def fresh (a : Arena) : Nat × Arena :=
  (a.next, { a with next := a.next + 1 })

/-- Stores a node at a place of its own. -/
def store (a : Arena) {k : Kind} (node : Node k) : Handle × Arena :=
  let (cell, a) := a.fresh
  (⟨.cell cell, k, node⟩, a)

/-- Stores a list at a place of its own. -/
def storeList (a : Arena) {τ : FieldType} (items : List (Content τ)) :
    Content (.list τ) × Arena :=
  let (block, a) := a.fresh
  (.list block (.ofList items), a)

/-- The arena as a record. How much memory it holds depends on the machine and is not shown. -/
def dump (_ : Arena) : Dump :=
  .record "AstArena" [("allocated_bytes", .word "N")]

end Arena

end SqlTree
