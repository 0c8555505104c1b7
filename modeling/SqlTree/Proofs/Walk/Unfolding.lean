import SqlTree.Proofs.Walk.Children
import SqlTree.Survey

/-!
# Unfoldings

The unfolding of a node is the finite tree that one gets by listing its children, the children
of these, and so on. A node that is reached along several paths occurs several times in it, once
for every path. A dialect node without a row is a leaf of its own sort: nothing is known of what
is below it.

Occurrences are named by paths of child indices from the root, as in `Walker.descend`.

* `Walker.unfold` is the unfolding of a node, `Walker.unfold_eq_node` and
  `Walker.unfold_eq_stuck` say what it consists of.
* `Tree.at?` finds the occurrence at a path; `Walker.at?_unfold` says that it is the node to
  which `Walker.descend` leads.
-/

set_option autoImplicit false

namespace SqlTree

/-- A path of child indices, from the root down. -/
abbrev Path := List Nat

mutual

/-- An unfolding. -/
inductive Tree where
  /-- A node with the unfoldings of its children. -/
  | node (handle : Handle) (below : Forest)
  /-- A node whose children are not known. -/
  | stuck (handle : Handle) (error : WalkError)

/-- The unfoldings of the children of a node, in walk order. -/
inductive Forest where
  | nil
  | cons (tree : Tree) (rest : Forest)

end

namespace Forest

/-- The trees of a list. -/
def ofList : List Tree → Forest
  | [] => nil
  | t :: ts => cons t (ofList ts)

/-- The tree at an index. -/
def get? : Forest → Nat → Option Tree
  | nil, _ => none
  | cons t _, 0 => some t
  | cons _ f, k + 1 => f.get? k

theorem get?_ofList (ts : List Tree) (k : Nat) : (ofList ts).get? k = ts[k]? := by
  induction ts generalizing k with
  | nil => rfl
  | cons t ts ih =>
    cases k with
    | zero => rfl
    | succ k => simpa [ofList, get?] using ih k

end Forest

namespace Tree

/-- The node at the root. -/
def handle : Tree → Handle
  | node h _ => h
  | stuck h _ => h

/-- The occurrence at a path. -/
def at? : Tree → Path → Option Tree
  | t, [] => some t
  | node _ below, k :: path => (below.get? k).bind (·.at? path)
  | stuck _ _, _ :: _ => none

@[simp]
theorem at?_nil (t : Tree) : t.at? [] = some t := by
  rw [at?]

@[simp]
theorem at?_node_cons (h : Handle) (below : Forest) (k : Nat) (path : Path) :
    (node h below).at? (k :: path) = (below.get? k).bind (·.at? path) := by
  rw [at?]

end Tree

namespace Walker

/-- The unfolding of a node. -/
def unfold (w : Walker) (h : Handle) : Tree :=
  match _hcs : w.children h with
  | .error e => .stuck h e
  | .ok cs => .node h (.ofList (cs.attach.map fun ⟨c, _hc⟩ => w.unfold c))
termination_by h.size
decreasing_by exact size_lt_of_mem_children _hcs _hc

theorem unfold_eq_stuck {w : Walker} {h : Handle} {e : WalkError} (hcs : w.children h = .error e) :
    w.unfold h = .stuck h e := by
  rw [unfold]
  split
  case h_1 e' he' => rw [Except.error.inj (hcs.symm.trans he')]
  case h_2 cs hcs' => cases hcs.symm.trans hcs'

theorem unfold_eq_node {w : Walker} {h : Handle} {cs : List Handle}
    (hcs : w.children h = .ok cs) : w.unfold h = .node h (.ofList (cs.map w.unfold)) := by
  rw [unfold]
  split
  case h_1 e he => cases hcs.symm.trans he
  case h_2 cs' hcs' =>
    obtain rfl := Except.ok.inj (hcs.symm.trans hcs')
    rw [List.attach_map_val]

@[simp]
theorem handle_unfold (w : Walker) (h : Handle) : (w.unfold h).handle = h := by
  cases hcs : w.children h with
  | error e => rw [unfold_eq_stuck hcs, Tree.handle]
  | ok cs => rw [unfold_eq_node hcs, Tree.handle]

/-- What the unfolding of a node looks like tells what its children are. -/
theorem children_of_unfold_eq_stuck {w : Walker} {h h' : Handle} {e : WalkError}
    (ht : w.unfold h = .stuck h' e) : h = h' ∧ w.children h = .error e := by
  cases hcs : w.children h with
  | error e' =>
    rw [unfold_eq_stuck hcs] at ht
    cases ht
    exact ⟨rfl, rfl⟩
  | ok cs =>
    rw [unfold_eq_node hcs] at ht
    cases ht

theorem children_of_unfold_eq_node {w : Walker} {h h' : Handle} {below : Forest}
    (ht : w.unfold h = .node h' below) :
    h = h' ∧ ∃ cs, w.children h = .ok cs ∧ below = .ofList (cs.map w.unfold) := by
  cases hcs : w.children h with
  | error e =>
    rw [unfold_eq_stuck hcs] at ht
    cases ht
  | ok cs =>
    rw [unfold_eq_node hcs] at ht
    cases ht
    exact ⟨rfl, cs, rfl, rfl⟩

/-- The first step of a path goes from the root to one of its children. -/
theorem descend_cons_eq_ok_iff {w : Walker} {h n : Handle} {k : Nat} {path : Path} :
    (w.descend (k :: path) h).2 = .ok n ↔
      ∃ cs c, w.children h = .ok cs ∧ cs[k]? = some c ∧ (w.descend path c).2 = .ok n := by
  rw [descend]
  cases hcs : w.children h with
  | error e => simp
  | ok cs => cases hk : cs[k]? <;> simp [hk]

/-- The last step of a path goes from a node to one of its children. -/
theorem descend_concat_eq_ok_iff {w : Walker} {h n : Handle} {path : Path} {k : Nat} :
    (w.descend (path ++ [k]) h).2 = .ok n ↔
      ∃ m cs, (w.descend path h).2 = .ok m ∧ w.children m = .ok cs ∧ cs[k]? = some n := by
  induction path generalizing h with
  | nil =>
    rw [List.nil_append, descend]
    cases hcs : w.children h with
    | error e => simp [descend, hcs]
    | ok cs => cases hk : cs[k]? <;> simp [descend, hcs, hk]
  | cons i path ih =>
    rw [List.cons_append, descend, descend]
    cases hcs : w.children h with
    | error e => simp
    | ok cs =>
      cases hi : cs[i]? with
      | none => simp [hi]
      | some c => simpa [hi] using ih

/-- **Occurrences are where paths lead.** The occurrence at a path of an unfolding is the
unfolding of the node to which the path leads. -/
theorem at?_unfold (w : Walker) (path : Path) (h : Handle) :
    (w.unfold h).at? path = (w.descend path h).2.toOption.map w.unfold := by
  induction path generalizing h with
  | nil => simp [descend, Except.toOption]
  | cons k path ih =>
    rw [descend]
    cases hcs : w.children h with
    | error e => rw [unfold_eq_stuck hcs]; simp [Tree.at?, Except.toOption]
    | ok cs =>
      -- one index of the path is one look into the list of children
      rw [unfold_eq_node hcs, Tree.at?_node_cons, Forest.get?_ofList, List.getElem?_map]
      cases hk : cs[k]? with
      | none => simp [hk, Except.toOption]
      | some c => simpa [hk] using ih c

end Walker

end SqlTree
