import SqlTree.Script.Basic
import SqlTree.Walk.Walker

/-!
# Playing scripts

The *stage* is the state of the visitors of a playbook: for each of them a tally of what it has
seen, and the lines that they and the log have written so far. A line is written at every entry,
with the label of the node, and at every leave, with the kind of the node that was entered last
and not left yet.

* `Playbook.visitor` plays a playbook in a walk.
* `Playbook.predicate` plays its first script as a predicate, which never leaves a node.
-/

set_option autoImplicit false

namespace SqlTree

/-- What a visitor has seen. -/
structure Tally where
  entered : Nat := 0
  left : Nat := 0
  /-- The kinds of the nodes that have been entered and not left, the last one first. -/
  pending : List Kind := []
  /-- How often each rule has applied. -/
  counts : List Nat := []

/-- The state of the visitors of a playbook. -/
structure Stage where
  tallies : Array Tally
  lines : Array String := #[]
  /-- Whether entries of the log are written, too. -/
  logging : Bool := false

namespace Stage

/-- The stage before a playbook is played. -/
def initial (p : Playbook) (logging : Bool) : Stage where
  tallies := p.scripts.map fun s => { counts := s.rules.map fun _ => 0 }
  logging := logging

/-- The tally of a visitor. -/
def tally (s : Stage) (i : Nat) : Tally :=
  s.tallies.getD i {}

/-- Replaces the tally of a visitor. -/
def setTally (s : Stage) (i : Nat) (t : Tally) : Stage :=
  { s with tallies := s.tallies.setIfInBounds i t }

/-- Writes a line. -/
def write (s : Stage) (line : String) : Stage :=
  { s with lines := s.lines.push line }

/-- Writes an entry of the log, if the log is written at all. -/
def note (s : Stage) (e : LogEvent) : Stage :=
  if s.logging then s.write e.line else s

/-- Takes all lines off the stage. -/
def clear (s : Stage) : Stage :=
  { s with lines := #[] }

end Stage

namespace Playbook

/-- The entry of a visitor: it writes a line, counts, and answers with the visitor to descend
with, if any. -/
def enter (p : Playbook) (i : Nat) (h : Handle) : StateM Stage (Option Nat) := do
  let script := p.script i
  let stage ← get
  let t := stage.tally i
  let entered := t.entered + 1
  let stopped := script.stopAfter.any (· < entered)
  let (counts, fired) :=
    if stopped then (t.counts, none)
    else Rule.judge h t.pending.length (script.rules.zip t.counts)
  let verdict := if stopped then .prune else fired.getD script.otherwise
  let pending := if verdict = .prune then t.pending else h.kind :: t.pending
  set ((stage.write (script.name ++ ">" ++ h.label)).setTally i
    { t with entered, counts, pending })
  return match verdict with
    | .descend => some i
    | .prune => none
    | .delegate j => some j

/-- The leave of a visitor: it writes the kind of the node that it entered last. -/
def leave (p : Playbook) (i : Nat) : StateM Stage (Option Nat) := do
  let script := p.script i
  let stage ← get
  let t := stage.tally i
  let kind := (t.pending.head?.map Kind.name).getD "?"
  set ((stage.write (script.name ++ "<" ++ kind)).setTally i
    { t with left := t.left + 1, pending := t.pending.tail })
  return if script.staysOnLeave then some i else none

/-- The visitors of a playbook. -/
def visitor (p : Playbook) : Visitor Nat Stage where
  visit i
    | .enter h => p.enter i h
    | .leave => p.leave i
  log e := modify (·.note e)

/-- The first script as a predicate: it holds unless the node is pruned. Nothing stays pending,
as a predicate is never told of a leave. -/
def predicate (p : Playbook) (h : Handle) : StateM Stage Bool := do
  let pending := ((← get).tally 0).pending
  let answer ← p.enter 0 h
  modify fun s => s.setTally 0 { s.tally 0 with pending }
  return answer.isSome

/-- The first script as an inspector. -/
def inspector (p : Playbook) : Visitor Unit Stage :=
  .inspector p.predicate fun e => modify (·.note e)

/-- Walks a tree with the first script of a playbook. -/
def walk (p : Playbook) (w : Walker) (h : Handle) (s : Stage) : Except WalkError Unit × Stage :=
  (w.walk p.visitor 0 h).run.run s

/-- Inspects a tree with the first script of a playbook as the predicate. -/
def inspect (p : Playbook) (w : Walker) (h : Handle) (s : Stage) :
    Except WalkError Unit × Stage :=
  (w.walk p.inspector () h).run.run s

/-- Tells the first script, as an inspector, of an event outside of any walk, and says whether
it answers with a visitor. -/
def tell (p : Playbook) (e : Event) (s : Stage) : Bool × Stage :=
  let (answer, s) := (p.inspector.visit () e).run s
  (answer.isSome, s)

end Playbook

end SqlTree
