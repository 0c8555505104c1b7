import SqlTree.Node.Handle
import SqlTree.Walk.Log

/-!
# Visitors

A walk calls its visitors: once when it enters a node, and once more when it leaves a node that
it descended into. On entry a visitor answers whether the walk shall descend, and which visitor
the children shall be shown to. Leaving carries no node, and the answer to it is not looked at.

Visitors are known by their names, of some type `ι`; all of them share one state, of type `σ`.

* `Visitor` is what a walk calls, `Event` what it tells.
* `Visitor.inspector` asks a predicate whether to descend.
-/

set_option autoImplicit false

namespace SqlTree

/-- What a visitor is told. -/
inductive Event where
  /-- The walk enters a node. -/
  | enter (node : Handle)
  /-- The walk has walked all children of the node that it entered last and has not left. -/
  | leave

namespace Event

/-- The node that is entered. -/
def node? : Event → Option Handle
  | enter h => some h
  | leave => none

/-- Whether the walk leaves a node. -/
def isLeave : Event → Bool
  | enter _ => false
  | leave => true

/-- The event as a variant. -/
def dump : Event → Dump
  | enter h => .variant "Enter" [h.dump]
  | leave => .word "Leave"

end Event

/-- The visitors of a walk. -/
structure Visitor (ι σ : Type) where
  /-- Tells a visitor of an event. On entry, `none` prunes the node and `some j` has the
  children shown to visitor `j`. -/
  visit : ι → Event → StateM σ (Option ι)
  /-- Takes an entry of the log. -/
  log : LogEvent → StateM σ Unit := fun _ => pure ()

/-- A single visitor that descends where a predicate holds, and does nothing on leaving. -/
def Visitor.inspector {σ : Type} (predicate : Handle → StateM σ Bool)
    (log : LogEvent → StateM σ Unit := fun _ => pure ()) : Visitor Unit σ where
  visit
    | (), .enter h => do return if ← predicate h then some () else none
    | (), .leave => pure none
  log := log

end SqlTree
