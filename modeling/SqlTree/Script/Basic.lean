import SqlTree.Node.Handle

/-!
# Scripts

A *script* describes a visitor by rules, so that a visitor can be written down as data. A rule
has conditions on the node that is entered and says what to do about it: descend, prune, or
descend with the visitor of another script. The first rule that fires decides.

A *playbook* is a list of scripts that refer to each other by their position in it.

* `Rule.applies` checks the conditions of a rule.
* `Rule.judge` finds the rule that fires and counts how often the rules have applied.
-/

set_option autoImplicit false

namespace SqlTree

/-- What to do about a node. -/
inductive Verdict where
  | descend
  | prune
  /-- Descend with the visitor of another script. -/
  | delegate (script : Nat)
  deriving DecidableEq

/-- A rule of a script. A condition that is absent always holds. -/
structure Rule where
  /-- The name of the kind of the node. -/
  kind : Option String := none
  /-- The text of the name that the node is. -/
  ident : Option String := none
  /-- The dialect kind of the node. -/
  dialect : Option String := none
  /-- How many nodes the visitor has entered and not left. -/
  depth : Option Nat := none
  /-- The one time, counted from one, that the rule fires among the times that it applies. -/
  nth : Option Nat := none
  verdict : Verdict

namespace Rule

/-- Whether all conditions on the node and its depth hold. -/
def applies (r : Rule) (h : Handle) (depth : Nat) : Bool :=
  r.kind.all (· == h.kind.name) &&
  r.ident.all (fun s => h.ident?.map Ident.value == some s) &&
  r.dialect.all (fun s => h.dialectKind? == some s) &&
  r.depth.all (· == depth)

/-- Goes through the rules up to the first one that fires. Each rule comes with the number of
times that it has applied, which grows by one if it applies now; rules after the one that fires
are left alone. -/
def judge (h : Handle) (depth : Nat) : List (Rule × Nat) → List Nat × Option Verdict
  | [] => ([], none)
  | (r, count) :: rest =>
    if r.applies h depth then
      if r.nth.all (· == count + 1) then ((count + 1) :: rest.map Prod.snd, some r.verdict)
      else
        let (counts, verdict) := judge h depth rest
        ((count + 1) :: counts, verdict)
    else
      let (counts, verdict) := judge h depth rest
      (count :: counts, verdict)

end Rule

/-- A visitor described by rules. -/
structure Script where
  name : String := "v"
  rules : List Rule := []
  /-- What to do where no rule fires. -/
  otherwise : Verdict := .descend
  /-- Whether the visitor answers with itself when the walk leaves a node. -/
  staysOnLeave : Bool := false
  /-- The number of entries after which every node is pruned. -/
  stopAfter : Option Nat := none

/-- Scripts that refer to each other by their position. -/
structure Playbook where
  scripts : Array Script

/-- The script at a position. Past the end there are only scripts without rules. -/
def Playbook.script (p : Playbook) (i : Nat) : Script :=
  p.scripts.getD i {}

end SqlTree
