import SqlTree.Node.Handle

/-!
# Sweeping over the nodes in a field

A sweep hands the nodes that a field holds to an action, one after the other and without ever
making a list of them. The action may have effects and may fail; the sweep then stops with it.
Every node comes with a proof that it is smaller than the node that holds it, so that the action
may itself sweep over what it is given.

* `Content.sweep` sweeps over a field of a form, `Part.sweep` over a field of a dialect node.
* `Handle.sweepAt` sweeps over the field with a given name.
-/

set_option autoImplicit false

namespace SqlTree

variable {m : Type → Type} [Monad m]

mutual

/-- Sweeps over the nodes in a field that is stored at the given place. -/
def Content.sweep (place : Place) : {τ : FieldType} → (x : Content τ) →
    (action : (c : Handle) → c.size ≤ x.size → m Unit) → m Unit
  | _, .flag _, _ => pure ()
  | _, .choice _, _ => pure ()
  | _, .lines _, _ => pure ()
  | .inline k, .inline node, action => action ⟨place, k, node⟩ (Nat.le_refl _)
  | _, .ref cell k _ node, action => action ⟨.cell cell, k, node⟩ (Nat.le_refl _)
  | _, .arm condition result, action => do
    condition.sweep place fun c h => action c (Nat.le_trans h (Nat.le_add_right ..))
    result.sweep place fun c h => action c (Nat.le_trans h (Nat.le_add_left ..))
  | _, .absent, _ => pure ()
  | _, .present content, action => content.sweep place action
  | _, .list block items, action => items.sweep block 0 action

/-- Sweeps over the items of a stored list, from the given index on. -/
def Items.sweep (block index : Nat) : {τ : FieldType} → (xs : Items τ) →
    (action : (c : Handle) → c.size ≤ xs.size → m Unit) → m Unit
  | _, .nil, _ => pure ()
  | _, .cons head tail, action => do
    head.sweep (.item block index) fun c h => action c (Nat.le_trans h (Nat.le_add_right ..))
    tail.sweep block (index + 1) fun c h => action c (Nat.le_trans h (Nat.le_add_left ..))

end

/-- Sweeps over a field of a dialect node. Each of its nodes is known by its number, so it does not
matter where the list of them is. -/
def Part.sweep (place : Place) : (p : Part) →
    (action : (c : Handle) → c.size ≤ p.size → m Unit) → m Unit
  | .absent, _ => pure ()
  | .one node, action => node.sweep place action
  | .many nodes, action => nodes.sweep 0 0 action

/-- Sweeps over the first field with the given name, if there is one. -/
def Fields.sweepAt (owner : Place) (name : String) : {fs : List FieldDecl} → (xs : Fields fs) →
    (action : (c : Handle) → c.size ≤ xs.size → m Unit) → m Unit
  | _, .nil, _ => pure ()
  | (n, _) :: _, .cons content rest, action =>
    if n = name then
      content.sweep (.field owner name) fun c h =>
        action c (Nat.le_trans h (by simp only [Fields.size]; omega))
    else
      rest.sweepAt owner name fun c h =>
        action c (Nat.le_trans h (by simp only [Fields.size]; omega))

/-- Sweeps over the first field with the given name, if there is one. -/
def Parts.sweepAt (owner : Place) (name : String) : (xs : Parts) →
    (action : (c : Handle) → c.size ≤ xs.size → m Unit) → m Unit
  | .nil, _ => pure ()
  | .cons n part rest, action =>
    if n = name then
      part.sweep (.field owner name) fun c h =>
        action c (Nat.le_trans h (by simp only [Parts.size]; omega))
    else
      rest.sweepAt owner name fun c h =>
        action c (Nat.le_trans h (by simp only [Parts.size]; omega))

/-- Sweeps over the field of a node with the given name. -/
def Body.sweepAt (owner : Place) (name : String) : {s : Shape} → (n : Body s) →
    (action : (c : Handle) → c.size < n.size → m Unit) → m Unit
  | _, .atom _, _ => pure ()
  | _, .form fields, action =>
    fields.sweepAt owner name fun c h => action c (Nat.lt_succ_of_le h)
  | _, .dialect _ _ parts, action =>
    parts.sweepAt owner name fun c h => action c (Nat.lt_succ_of_le h)

/-- Sweeps over the nodes in the field of a handle with the given name. A name that the node
does not have holds nothing. -/
def Handle.sweepAt (h : Handle) (name : String)
    (action : (c : Handle) → c.size < h.size → m Unit) : m Unit :=
  h.node.sweepAt h.place name action

end SqlTree
