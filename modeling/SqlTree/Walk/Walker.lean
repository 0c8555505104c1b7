import SqlTree.Grammar.ChildOrder
import SqlTree.Node.Sweep
import SqlTree.Walk.Error
import SqlTree.Walk.Registry
import SqlTree.Walk.Visitor

/-!
# Walks

A walker knows the rows of some dialect kinds and walks trees depth first. On entering a node it
asks the visitor; if the visitor wants to descend, it walks the children in the order of the
node's row with the visitor that was named, and then tells the first visitor that it leaves. A
dialect node without a row ends the walk at once.

* `Walker.row` is the row of a node: from the child-order table or from the registry.
* `Walker.forEachChild` hands the children of a node to an action, `Walker.children` lists them.
* `Walker.walk` is the walk itself, `Walker.inspect` the walk of a predicate.
-/

set_option autoImplicit false

namespace SqlTree

/-- What a walk needs to know beside the grammar. -/
structure Walker where
  registry : Registry := .empty

namespace Walker

/-- The names of the fields that hold the children of a node, in walk order. -/
def row (w : Walker) (h : Handle) : Except WalkError (List String) :=
  match h.dialectKind? with
  | none => .ok h.kind.childOrder
  | some kind =>
    match w.registry.childOrder kind with
    | some order => .ok order
    | none => .error (.unregistered kind)

/-- What is reported when the children of a node are asked for: built-in kinds are not worth a
report. -/
def report (w : Walker) (h : Handle) : Option LogEvent :=
  match h.dialectKind? with
  | none => none
  | some kind =>
    match w.registry.childOrder kind with
    | some order => some (.dispatching kind order.length)
    | none => some (.unregistered kind)

/-- Hands the children of a node to an action, in walk order. A node without a row is reported
before any child is touched, and the first failure of the action ends everything. -/
def forEachChild {m : Type → Type} [Monad m] (w : Walker) (log : LogEvent → m Unit) (h : Handle)
    (action : (c : Handle) → c.size < h.size → ExceptT WalkError m Unit) :
    ExceptT WalkError m Unit := do
  if let some entry := w.report h then
    log entry
  let row ← liftExcept (w.row h)
  row.forM fun name => h.sweepAt name action
where
  /-- A result as a computation without effects. -/
  liftExcept {α : Type} : Except WalkError α → ExceptT WalkError m α
    | .ok a => pure a
    | .error e => throw e

/-- The children of a node, in walk order. -/
def children (w : Walker) (h : Handle) : Except WalkError (List Handle) :=
  let collect : ExceptT WalkError (StateM (List Handle)) Unit :=
    w.forEachChild (fun _ => pure ()) h fun c _ => modify (· ++ [c])
  match collect.run.run [] with
  | (.ok (), cs) => .ok cs
  | (.error e, _) => .error e

/-- Walks the tree below a node. -/
def walk {ι σ : Type} (w : Walker) (v : Visitor ι σ) (i : ι) (h : Handle) :
    ExceptT WalkError (StateM σ) Unit := do
  match ← v.visit i (.enter h) with
  | none => v.log (.pruned h.kind)
  | some j =>
    w.forEachChild v.log h fun c _ => w.walk v j c
    discard (v.visit i .leave)
termination_by h.size

/-- Walks the tree below a node, as far down as a predicate holds. -/
def inspect {σ : Type} (w : Walker) (predicate : Handle → StateM σ Bool) (h : Handle)
    (log : LogEvent → StateM σ Unit := fun _ => pure ()) : ExceptT WalkError (StateM σ) Unit :=
  w.walk (.inspector predicate log) () h

/-- The walker as a record. -/
def dump (w : Walker) : Dump :=
  .record "Walker" [("registry", w.registry.dump)]

end Walker

end SqlTree
