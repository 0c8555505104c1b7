import SqlTree.Node.Held
import SqlTree.Walk.Walker

/-!
# The children of a node, as a list

`Walker.forEachChild` hands the children of a node to an action without ever making a list of
them, and `Walker.children` is defined through it. Here both are told through the plain list of
the nodes that the fields of the row hold:

* `Walker.children_eq`: the children are the nodes in the fields of the row, field by field.
* `Walker.forEachChild_eq_forEachListed`: handing out the children is listing them first and
  then performing the action on the list from left to right, in every lawful monad.
* `Walker.size_lt_of_mem_children`: children are smaller than their parent, so everything that
  descends from parents to children ends.

The log entry that announces a node is kept throughout: it precedes the first child, and it is
also made when there is no row.
-/

set_option autoImplicit false

namespace SqlTree

/-! ### Held nodes are smaller than what holds them -/

mutual

theorem Content.size_le_of_mem_held {place : Place} {c : Handle} : {τ : FieldType} →
    (x : Content τ) → c ∈ x.held place → c.size ≤ x.size
  | .inline _, .inline node, hc => by
    obtain rfl := List.mem_singleton.1 hc
    exact Nat.le_refl _
  | _, .ref _ _ _ node, hc => by
    obtain rfl := List.mem_singleton.1 hc
    exact Nat.le_refl _
  | _, .arm condition result, hc => by
    rw [Content.size]
    rcases List.mem_append.1 hc with hc | hc
    · have := condition.size_le_of_mem_held hc
      omega
    · have := result.size_le_of_mem_held hc
      omega
  | _, .present content, hc => content.size_le_of_mem_held hc
  | _, .list _ items, hc => items.size_le_of_mem_held hc

theorem Items.size_le_of_mem_held {block index : Nat} {c : Handle} : {τ : FieldType} →
    (xs : Items τ) → c ∈ xs.held block index → c.size ≤ xs.size
  | _, .cons head tail, hc => by
    rw [Items.size]
    rcases List.mem_append.1 hc with hc | hc
    · have := head.size_le_of_mem_held hc
      omega
    · have := tail.size_le_of_mem_held hc
      omega

end

theorem Part.size_le_of_mem_held {place : Place} {c : Handle} (x : Part)
    (hc : c ∈ x.held place) : c.size ≤ x.size := by
  cases x with
  | absent => simp [Part.held] at hc
  | one node => exact node.size_le_of_mem_held hc
  | many nodes => exact nodes.size_le_of_mem_held hc

theorem Fields.size_le_of_mem_heldAt {owner : Place} {name : String} {c : Handle} :
    {fs : List FieldDecl} → (xs : Fields fs) → c ∈ xs.heldAt owner name → c.size ≤ xs.size
  | [], .nil, hc => by simp [Fields.heldAt] at hc
  | (n, _) :: _, .cons content rest, hc => by
    rw [Fields.heldAt] at hc
    rw [Fields.size]
    split at hc
    · have := content.size_le_of_mem_held hc
      omega
    · have := rest.size_le_of_mem_heldAt hc
      omega

theorem Parts.size_le_of_mem_heldAt {owner : Place} {name : String} {c : Handle} :
    (xs : Parts) → c ∈ xs.heldAt owner name → c.size ≤ xs.size
  | .cons n part rest, hc => by
    rw [Parts.heldAt] at hc
    rw [Parts.size]
    split at hc
    · have := part.size_le_of_mem_held hc
      omega
    · have := rest.size_le_of_mem_heldAt hc
      omega

theorem Body.size_lt_of_mem_heldAt {owner : Place} {name : String} {c : Handle} {s : Shape}
    (n : Body s) (hc : c ∈ n.heldAt owner name) : c.size < n.size := by
  cases n with
  | atom data => simp [Body.heldAt] at hc
  | form fields =>
    rw [Body.size]
    exact Nat.lt_succ_of_le (fields.size_le_of_mem_heldAt hc)
  | dialect kind shown parts =>
    rw [Body.size]
    exact Nat.lt_succ_of_le (parts.size_le_of_mem_heldAt hc)

/-- The nodes in the fields of a node are smaller than the node. -/
theorem Handle.size_lt_of_mem_heldAt {h c : Handle} {name : String} (hc : c ∈ h.heldAt name) :
    c.size < h.size :=
  Body.size_lt_of_mem_heldAt h.node hc

/-- Only the nodes of one kind are declared at run time. -/
theorem Handle.dialectKind?_eq_none_iff {h : Handle} :
    h.dialectKind? = none ↔ h.kind ≠ .dialect := by
  obtain ⟨place, k, n⟩ := h
  constructor
  · rintro hnone rfl
    cases n
    cases hnone
  · intro hk
    rw [dialectKind?]
    rintro place kind shown parts ⟨⟩
    exact hk rfl

namespace Walker

/-- The row of a built-in node is that of the table. -/
theorem row_of_ne_dialect (w : Walker) {h : Handle} (hk : h.kind ≠ .dialect) :
    w.row h = .ok h.kind.childOrder := by
  rw [row, Handle.dialectKind?_eq_none_iff.2 hk]

/-! ### Handing out the children of a row -/

section Lawful

variable {m : Type → Type} [Monad m]

/-- Makes the log entry for a node whose children are asked for. -/
def announce (w : Walker) (log : LogEvent → m Unit) (h : Handle) : m Unit :=
  match w.report h with
  | some entry => log entry
  | none => pure ()

variable [LawfulMonad m]

/-- Sweeping over the fields of a row one by one goes through the nodes in all of them. -/
private theorem forM_sweepAt (h : Handle) (row : List String) (f : Handle → m Unit) :
    (row.forM fun name => h.sweepAt name fun c _ => f c) = (row.flatMap h.heldAt).forM f := by
  induction row with
  | nil => rfl
  | cons name row ih =>
    rw [List.flatMap_cons, List.forM_eq_forM, List.forM_eq_forM, List.forM_append,
      List.forM_cons, Handle.sweepAt_eq_forM]
    exact congrArg _ (funext fun _ => ih)

/-- What handing out the children comes to, in terms of the row of the node. -/
private theorem forEachChild_eq_row (w : Walker) (log : LogEvent → m Unit) (h : Handle)
    (f : Handle → ExceptT WalkError m Unit) :
    (w.forEachChild log h fun c _ => f c) = (do
      ExceptT.lift (w.announce log h)
      match w.row h with
      | .error e => throw e
      | .ok row => (row.flatMap h.heldAt).forM f) := by
  unfold forEachChild announce
  simp only [forM_sweepAt]
  cases w.row h with
  | error e =>
    cases w.report h with
    | none => simp [forEachChild.liftExcept]
    | some entry => simp [forEachChild.liftExcept]; rfl
  | ok row =>
    cases w.report h with
    | none => simp [forEachChild.liftExcept]
    | some entry => simp [forEachChild.liftExcept]; rfl

end Lawful

private theorem run_forM_modify (cs acc : List Handle) :
    (cs.forM fun c => (modify (· ++ [c]) : ExceptT WalkError (StateM (List Handle)) Unit)).run.run
      acc = (.ok (), acc ++ cs) := by
  induction cs generalizing acc with
  | nil => simp; rfl
  | cons c cs ih =>
    have := ih (acc ++ [c])
    rw [List.append_assoc] at this
    exact this

/-- **The children of a node** are the nodes in the fields of its row, field by field. -/
theorem children_eq (w : Walker) (h : Handle) :
    w.children h = (w.row h).map fun row => row.flatMap h.heldAt := by
  have hsilent : w.announce (fun _ => (pure () : StateM (List Handle) Unit)) h = pure () := by
    rw [announce]
    cases w.report h <;> rfl
  unfold children
  rw [forEachChild_eq_row, hsilent]
  cases hr : w.row h with
  | error e => rfl
  | ok row =>
    -- the collecting action never fails, so it sees all nodes of the row
    have := run_forM_modify (row.flatMap h.heldAt) []
    simp only [List.forM_eq_forM, List.nil_append, ExceptT.lift_pure, pure_bind] at this ⊢
    rw [this]
    rfl

/-- Only a dialect node without a row has no children list, and the failure names its kind. -/
theorem children_eq_error_iff {w : Walker} {h : Handle} {e : WalkError} :
    w.children h = .error e ↔
      ∃ kind, h.dialectKind? = some kind ∧ w.registry.childOrder kind = none ∧
        e = .unregistered kind := by
  rw [children_eq, row]
  cases h.dialectKind? with
  | none => simp [Except.map]
  | some kind =>
    cases hk : w.registry.childOrder kind with
    | none => simp [Except.map, hk, eq_comm]
    | some order => simp [Except.map, hk]

/-- Children are smaller than their parent. -/
theorem size_lt_of_mem_children {w : Walker} {h c : Handle} {cs : List Handle}
    (hcs : w.children h = .ok cs) (hc : c ∈ cs) : c.size < h.size := by
  rw [children_eq] at hcs
  cases hr : w.row h with
  | error e => simp [hr, Except.map] at hcs
  | ok row =>
    obtain rfl : row.flatMap h.heldAt = cs := by simpa [hr, Except.map] using hcs
    obtain ⟨name, -, hname⟩ := List.mem_flatMap.1 hc
    exact Handle.size_lt_of_mem_heldAt hname

/-! ### Handing out is listing first -/

section Lawful

variable {m : Type → Type} [Monad m]

/-- Lists the children of a node first, and then performs an action on them from left to right.
Without a list the action is never performed. -/
def forEachListed (w : Walker) (log : LogEvent → m Unit) (h : Handle)
    (f : Handle → ExceptT WalkError m Unit) : ExceptT WalkError m Unit := do
  ExceptT.lift (w.announce log h)
  match w.children h with
  | .error e => throw e
  | .ok cs => cs.forM f

/-- **Handing out the children is listing them first.** -/
theorem forEachChild_eq_forEachListed [LawfulMonad m] (w : Walker) (log : LogEvent → m Unit)
    (h : Handle) (f : Handle → ExceptT WalkError m Unit) :
    (w.forEachChild log h fun c _ => f c) = w.forEachListed log h f := by
  rw [forEachChild_eq_row, forEachListed, children_eq]
  cases w.row h <;> rfl

end Lawful

end Walker

end SqlTree
