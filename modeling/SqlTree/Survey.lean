import SqlTree.Walk.Walker

/-!
# Surveys

Questions about a tree that a full inspection answers: which nodes are entered, which of them
are the same stored node, which names occur. A survey that fails still knows what was entered
before the failure.

* `Walker.survey` lists the nodes that a full inspection enters.
* `sameAs` finds for each node of such a list the first one that it is the same as.
* `Walker.descend` follows a path of child indices.
-/

set_option autoImplicit false

namespace SqlTree

/-- The nodes that a full inspection enters, in order, and how the inspection ends. -/
def Walker.survey (w : Walker) (h : Handle) : Except WalkError Unit × List Handle :=
  let record (c : Handle) : StateM (Array Handle) Bool := do
    modify (·.push c)
    return true
  let (result, entered) := (w.inspect record h).run.run #[]
  (result, entered.toList)

/-- Whether nodes of a kind consist of nothing, so that nothing tells where they are stored. -/
def Kind.isBlank (k : Kind) : Bool :=
  k.shape == .form []

/-- For each handle the position of the first handle that is the same stored node. Blank nodes
have no identity. -/
def sameAs (handles : List Handle) : List (Option Nat) :=
  handles.map fun h => if h.kind.isBlank then none else handles.findIdx? fun c => c.same h

/-- The names that a full inspection enters, in order, and how the inspection ends. -/
def Walker.idents (w : Walker) (h : Handle) : Except WalkError Unit × List Ident :=
  let (result, entered) := w.survey h
  (result, entered.filterMap Handle.ident?)

/-- Why a path leads nowhere. -/
inductive PathError where
  /-- A node has no child at an index of the path. -/
  | noChild
  /-- The children of a node are not known. -/
  | walk (error : WalkError)
  deriving DecidableEq

/-- Follows a path: each index picks one of the children of the node reached so far. All that
is reported on the way is listed. -/
def Walker.descend (w : Walker) : List Nat → Handle → List LogEvent × Except PathError Handle
  | [], h => ([], .ok h)
  | i :: path, h =>
    let entries := (w.report h).toList
    match w.children h with
    | .error e => (entries, .error (.walk e))
    | .ok cs =>
      match cs[i]? with
      | none => (entries, .error .noChild)
      | some c =>
        let (later, result) := w.descend path c
        (entries ++ later, result)

end SqlTree
