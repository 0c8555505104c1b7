import SqlTree.Node.Sweep

/-!
# The nodes in a field, as a list

The plain view of what a sweep goes through: the list of the nodes that a field holds, with the
places where they are stored. An absent field holds none, a list those of its items in order,
and an arm of a case expression its condition and then its result.

Main statement: `Handle.sweepAt_eq_forM`, a sweep whose action does not look at sizes performs
the action on the listed nodes from left to right, in every lawful monad.
-/

set_option autoImplicit false

namespace SqlTree

/-! ### The lists -/

mutual

/-- The nodes in a field that is stored at the given place. -/
def Content.held (place : Place) : {τ : FieldType} → Content τ → List Handle
  | _, .flag _ => []
  | _, .choice _ => []
  | _, .lines _ => []
  | .inline k, .inline node => [⟨place, k, node⟩]
  | _, .ref cell k _ node => [⟨.cell cell, k, node⟩]
  | _, .arm condition result => condition.held place ++ result.held place
  | _, .absent => []
  | _, .present content => content.held place
  | _, .list block items => items.held block 0

/-- The nodes in the items of a stored list, from the given index on. -/
def Items.held (block index : Nat) : {τ : FieldType} → Items τ → List Handle
  | _, .nil => []
  | _, .cons head tail => head.held (.item block index) ++ tail.held block (index + 1)

end

/-- The nodes in a field of a dialect node. -/
def Part.held (place : Place) : Part → List Handle
  | .absent => []
  | .one node => node.held place
  | .many nodes => nodes.held 0 0

/-- The nodes in the first field with the given name. -/
def Fields.heldAt (owner : Place) (name : String) : {fs : List FieldDecl} → Fields fs → List Handle
  | _, .nil => []
  | (n, _) :: _, .cons content rest =>
    if n = name then content.held (.field owner name) else rest.heldAt owner name

/-- The nodes in the first field with the given name. -/
def Parts.heldAt (owner : Place) (name : String) : Parts → List Handle
  | .nil => []
  | .cons n part rest =>
    if n = name then part.held (.field owner name) else rest.heldAt owner name

/-- The nodes in the field of a node with the given name. -/
def Body.heldAt (owner : Place) (name : String) : {s : Shape} → Body s → List Handle
  | _, .atom _ => []
  | _, .form fields => fields.heldAt owner name
  | _, .dialect _ _ parts => parts.heldAt owner name

/-- The nodes in the field of a handle with the given name. -/
def Handle.heldAt (h : Handle) (name : String) : List Handle :=
  h.node.heldAt h.place name

/-! ### Sweeps go through the lists -/

section Sweep

variable {m : Type → Type} [Monad m] [LawfulMonad m]

mutual

theorem Content.sweep_eq_forM (place : Place) : {τ : FieldType} → (x : Content τ) →
    (f : Handle → m Unit) → (x.sweep place fun c _ => f c) = (x.held place).forM f
  | _, .flag _, f => by simp [Content.sweep, Content.held]
  | _, .choice _, f => by simp [Content.sweep, Content.held]
  | _, .lines _, f => by simp [Content.sweep, Content.held]
  | .inline _, .inline _, f => by simp [Content.sweep, Content.held]
  | _, .ref _ _ _ _, f => by simp [Content.sweep, Content.held]
  | _, .arm condition result, f => by
    simp [Content.sweep, Content.held, condition.sweep_eq_forM place f,
      result.sweep_eq_forM place f]
  | _, .absent, f => by simp [Content.sweep, Content.held]
  | _, .present content, f => content.sweep_eq_forM place f
  | _, .list _ items, f => items.sweep_eq_forM _ 0 f

theorem Items.sweep_eq_forM (block index : Nat) : {τ : FieldType} → (xs : Items τ) →
    (f : Handle → m Unit) → (xs.sweep block index fun c _ => f c) = (xs.held block index).forM f
  | _, .nil, f => by simp [Items.sweep, Items.held]
  | _, .cons head tail, f => by
    simp [Items.sweep, Items.held, head.sweep_eq_forM (.item block index) f,
      tail.sweep_eq_forM block (index + 1) f]

end

theorem Part.sweep_eq_forM (place : Place) (p : Part) (f : Handle → m Unit) :
    (p.sweep place fun c _ => f c) = (p.held place).forM f := by
  cases p with
  | absent => simp [Part.sweep, Part.held]
  | one node => exact node.sweep_eq_forM place f
  | many nodes => exact nodes.sweep_eq_forM 0 0 f

theorem Fields.sweepAt_eq_forM (owner : Place) (name : String) : {fs : List FieldDecl} →
    (xs : Fields fs) → (f : Handle → m Unit) →
    (xs.sweepAt owner name fun c _ => f c) = (xs.heldAt owner name).forM f
  | _, .nil, f => by simp [Fields.sweepAt, Fields.heldAt]
  | (n, _) :: _, .cons content rest, f => by
    by_cases h : n = name
    · simpa only [Fields.sweepAt, Fields.heldAt, if_pos h] using content.sweep_eq_forM _ f
    · simpa only [Fields.sweepAt, Fields.heldAt, if_neg h] using rest.sweepAt_eq_forM owner name f

theorem Parts.sweepAt_eq_forM (owner : Place) (name : String) : (xs : Parts) →
    (f : Handle → m Unit) → (xs.sweepAt owner name fun c _ => f c) = (xs.heldAt owner name).forM f
  | .nil, f => by simp [Parts.sweepAt, Parts.heldAt]
  | .cons n part rest, f => by
    by_cases h : n = name
    · simpa only [Parts.sweepAt, Parts.heldAt, if_pos h] using part.sweep_eq_forM _ f
    · simpa only [Parts.sweepAt, Parts.heldAt, if_neg h] using rest.sweepAt_eq_forM owner name f

theorem Body.sweepAt_eq_forM (owner : Place) (name : String) {s : Shape} (n : Body s)
    (f : Handle → m Unit) :
    (n.sweepAt owner name fun c _ => f c) = (n.heldAt owner name).forM f := by
  cases n with
  | atom data => simp [Body.sweepAt, Body.heldAt]
  | form fields => exact fields.sweepAt_eq_forM owner name f
  | dialect kind shown parts => exact parts.sweepAt_eq_forM owner name f

/-- **A sweep goes through the list.** Sweeping over a field performs the action on the nodes in
it from left to right. -/
theorem Handle.sweepAt_eq_forM (h : Handle) (name : String) (f : Handle → m Unit) :
    (h.sweepAt name fun c _ => f c) = (h.heldAt name).forM f :=
  Body.sweepAt_eq_forM h.place name h.node f

end Sweep

end SqlTree
