import SqlTree.Proofs.Node.Outline

/-!
# Which kinds can be children of which

The declarations of a kind bound what its nodes can have as children: a field of a given type
takes nodes of some kinds and of no others. This bound is exact, because nodes of every kind can
be made.

* `FieldType.admits` and `Kind.admits` are the bound; `Kind.admits_of_mem_children` says that
  children keep within it.
* `Kind.nonempty_node`: there is a node of every kind. It is made of ever simpler kinds, and three
  levels are enough.

Main statement: `Kind.admits_iff_exists_child`.
-/

set_option autoImplicit false

namespace SqlTree

/-! ### The bound -/

/-- Whether a field of this type can hold a node of kind `k`. -/
def FieldType.admits : FieldType → Kind → Bool
  | flag, _ | choice, _ | lines, _ => false
  | inline k', k => k' == k
  | ref t, k => t.accepts k
  | arm, k => Category.expr.contains k
  | optional τ, k | list τ, k => τ.admits k

/-- Whether a node of the first kind can have a child of the second, as far as its declared fields
go. -/
def Kind.admits (parent child : Kind) : Bool :=
  parent.shape.fields.any fun f => f.2.admits child

mutual

theorem Content.admits_of_mem_held {place : Place} {c : Handle} : {τ : FieldType} →
    (x : Content τ) → c ∈ x.held place → τ.admits c.kind = true
  | .inline k, .inline _, hc => by
    obtain rfl := List.mem_singleton.1 hc
    exact beq_self_eq_true k
  | _, .ref _ _ accepted _, hc => by
    obtain rfl := List.mem_singleton.1 hc
    exact accepted
  | _, .arm condition result, hc => by
    rcases List.mem_append.1 hc with hc | hc
    · exact condition.admits_of_mem_held hc
    · exact result.admits_of_mem_held hc
  | _, .present content, hc => content.admits_of_mem_held hc
  | _, .list _ items, hc => items.admits_of_mem_held hc

theorem Items.admits_of_mem_held {block index : Nat} {c : Handle} : {τ : FieldType} →
    (xs : Items τ) → c ∈ xs.held block index → τ.admits c.kind = true
  | _, .cons head tail, hc => by
    rcases List.mem_append.1 hc with hc | hc
    · exact head.admits_of_mem_held hc
    · exact tail.admits_of_mem_held hc

end

theorem Fields.admits_of_mem_held {owner : Place} {c : Handle} : {fs : List FieldDecl} →
    (xs : Fields fs) → c ∈ xs.held owner → (fs.any fun f => f.2.admits c.kind) = true
  | [], .nil, hc => by cases hc
  | _ :: _, .cons content rest, hc => by
    rw [List.any_cons, Bool.or_eq_true]
    rcases List.mem_append.1 hc with hc | hc
    · exact .inl (content.admits_of_mem_held hc)
    · exact .inr (rest.admits_of_mem_held hc)

theorem Body.admits_of_mem_held {owner : Place} {c : Handle} {s : Shape} (n : Body s)
    (hc : c ∈ n.held owner) : (s.fields.any fun f => f.2.admits c.kind) = true := by
  cases n with
  | atom data => cases hc
  | form fields => exact fields.admits_of_mem_held hc
  | dialect kind shown parts => cases hc

/-- The children of a built-in node are of kinds that its own kind admits. -/
theorem Kind.admits_of_mem_children {w : Walker} {h c : Handle} {cs : List Handle}
    (hk : h.kind ≠ .dialect) (hcs : w.children h = .ok cs) (hc : c ∈ cs) :
    h.kind.admits c.kind = true := by
  rw [w.children_eq_declared hk] at hcs
  cases hcs
  exact Body.admits_of_mem_held h.node hc

/-! ### Nodes of every kind -/

theorem AtomType.nonempty_carrier (t : AtomType) : Nonempty t.Carrier := by
  cases t with
  | ident => exact ⟨{ value := "" }⟩
  | value => exact ⟨Value.null⟩
  | operator => exact ⟨Operator.plus⟩
  | dataType => exact ⟨DataType.int⟩
  | frameUnits => exact ⟨FrameUnits.rows⟩
  | frameBound => exact ⟨FrameBound.currentRow⟩
  | setOperator => exact ⟨SetOperator.union false⟩
  | joinType => exact ⟨JoinType.inner⟩

/-- Whether a field of this type can be filled with nodes of the given kinds. An optional field may
be left out, and a list may be empty. -/
def FieldType.fillable (made : Kind → Bool) : FieldType → Bool
  | flag | choice | lines | optional _ | list _ => true
  | inline k => made k
  | ref t => Kind.all.any fun k => t.accepts k && made k
  | arm => Kind.all.any fun k => Category.expr.contains k && made k

/-- Whether nodes of a kind can be made of at most the given number of levels. -/
def Kind.makeable : Nat → Kind → Bool
  | 0, _ => false
  | depth + 1, k => k.shape.fields.all fun f => f.2.fillable (Kind.makeable depth)

section Filling

variable {made : Kind → Bool} (hmade : ∀ k, made k = true → Nonempty (Node k))
include hmade

theorem Content.nonempty_ref {t : Target}
    (ht : (Kind.all.any fun k => t.accepts k && made k) = true) : Nonempty (Content (.ref t)) := by
  obtain ⟨k, -, hk⟩ := List.any_eq_true.1 ht
  rw [Bool.and_eq_true] at hk
  obtain ⟨node⟩ := hmade k hk.2
  exact ⟨.ref 0 k hk.1 node⟩

theorem Content.nonempty_of_fillable {τ : FieldType} (hτ : τ.fillable made = true) :
    Nonempty (Content τ) := by
  cases τ with
  | flag => exact ⟨.flag false⟩
  | choice => exact ⟨.choice none⟩
  | lines => exact ⟨.lines []⟩
  | inline k =>
    obtain ⟨node⟩ := hmade k hτ
    exact ⟨.inline node⟩
  | ref t => exact Content.nonempty_ref hmade hτ
  | arm =>
    obtain ⟨x⟩ := Content.nonempty_ref (t := .member .expr) hmade hτ
    exact ⟨.arm x x⟩
  | optional τ => exact ⟨.absent⟩
  | list τ => exact ⟨.list 0 .nil⟩

theorem Fields.nonempty_of_fillable : (fs : List FieldDecl) →
    (fs.all fun f => f.2.fillable made) = true → Nonempty (Fields fs)
  | [], _ => ⟨.nil⟩
  | (_, _) :: fs, hfs => by
    rw [List.all_cons, Bool.and_eq_true] at hfs
    obtain ⟨content⟩ := Content.nonempty_of_fillable hmade hfs.1
    obtain ⟨rest⟩ := Fields.nonempty_of_fillable fs hfs.2
    exact ⟨.cons content rest⟩

theorem Body.nonempty_of_fillable {s : Shape}
    (hs : (s.fields.all fun f => f.2.fillable made) = true) : Nonempty (Body s) := by
  cases s with
  | atom t =>
    obtain ⟨data⟩ := t.nonempty_carrier
    exact ⟨.atom data⟩
  | form fs =>
    obtain ⟨fields⟩ := Fields.nonempty_of_fillable hmade fs hs
    exact ⟨.form fields⟩
  | dialect => exact ⟨.dialect "" (.word "") .nil⟩

end Filling

theorem Kind.nonempty_of_makeable {depth : Nat} {k : Kind} (hk : k.makeable depth = true) :
    Nonempty (Node k) := by
  induction depth generalizing k with
  | zero => cases hk
  | succ depth ih => exact Body.nonempty_of_fillable (fun k' hk' => ih hk') hk

/-- **There is a node of every kind.** -/
theorem Kind.nonempty_node (k : Kind) : Nonempty (Node k) := by
  have hall : ∀ k ∈ all, k.makeable 3 = true := by decide +kernel
  exact nonempty_of_makeable (hall k (mem_all k))

/-! ### The bound is exact -/

theorem Target.exists_accepts (t : Target) : ∃ k, t.accepts k = true := by
  cases t with
  | any => exact ⟨.ident, rfl⟩
  | only k => exact ⟨k, beq_self_eq_true k⟩
  | member c =>
    have hany : (Kind.all.any c.contains) = true := by cases c <;> rfl
    obtain ⟨k, -, hk⟩ := List.any_eq_true.1 hany
    exact ⟨k, hk⟩

/-- Fields of every type can be filled if all kinds can be used. -/
theorem FieldType.fillable_all (τ : FieldType) : τ.fillable (fun _ => true) = true := by
  have hany : ∀ t : Target, (Kind.all.any fun k => t.accepts k && true) = true := by
    intro t
    obtain ⟨k, hk⟩ := t.exists_accepts
    exact List.any_eq_true.2 ⟨k, k.mem_all, by simp [hk]⟩
  cases τ with
  | ref t => exact hany t
  | arm => exact hany (.member .expr)
  | _ => rfl

theorem Content.nonempty (τ : FieldType) : Nonempty (Content τ) :=
  Content.nonempty_of_fillable (fun k _ => k.nonempty_node) τ.fillable_all

theorem Fields.nonempty (fs : List FieldDecl) : Nonempty (Fields fs) :=
  Fields.nonempty_of_fillable (fun k _ => k.nonempty_node) fs
    (List.all_eq_true.2 fun f _ => f.2.fillable_all)

/-- A field can be filled so that it holds a node of any kind that its type admits. -/
theorem Content.exists_held_of_admits {k : Kind} : (τ : FieldType) → τ.admits k = true →
    ∃ x : Content τ, ∀ place, ∃ c ∈ x.held place, c.kind = k
  | .inline k', hk => by
    obtain rfl := beq_iff_eq.1 hk
    obtain ⟨node⟩ := k'.nonempty_node
    exact ⟨.inline node, fun place => ⟨_, List.mem_singleton_self _, rfl⟩⟩
  | .ref t, hk => by
    obtain ⟨node⟩ := k.nonempty_node
    exact ⟨.ref 0 k hk node, fun place => ⟨_, List.mem_singleton_self _, rfl⟩⟩
  | .arm, hk => by
    obtain ⟨node⟩ := k.nonempty_node
    let x : Content .expr := .ref 0 k hk node
    exact ⟨.arm x x, fun place => ⟨_, List.mem_append_left _ (List.mem_singleton_self _), rfl⟩⟩
  | .optional τ, hk => by
    obtain ⟨x, hx⟩ := Content.exists_held_of_admits τ hk
    exact ⟨.present x, hx⟩
  | .list τ, hk => by
    obtain ⟨x, hx⟩ := Content.exists_held_of_admits τ hk
    refine ⟨.list 0 (.cons x .nil), fun place => ?_⟩
    obtain ⟨c, hc, hkind⟩ := hx (.item 0 0)
    exact ⟨c, List.mem_append_left _ hc, hkind⟩

/-- The fields of a form can be filled so that they hold a node of any kind that one of them
admits. -/
theorem Fields.exists_held_of_admits {k : Kind} : (fs : List FieldDecl) →
    (fs.any fun f => f.2.admits k) = true →
    ∃ xs : Fields fs, ∀ owner, ∃ c ∈ xs.held owner, c.kind = k
  | (n, τ) :: fs, hfs => by
    rw [List.any_cons, Bool.or_eq_true] at hfs
    rcases hfs with hτ | hfs
    · obtain ⟨x, hx⟩ := Content.exists_held_of_admits τ hτ
      obtain ⟨rest⟩ := Fields.nonempty fs
      refine ⟨.cons x rest, fun owner => ?_⟩
      obtain ⟨c, hc, hkind⟩ := hx (.field owner n)
      exact ⟨c, List.mem_append_left _ hc, hkind⟩
    · obtain ⟨x⟩ := Content.nonempty τ
      obtain ⟨rest, hrest⟩ := Fields.exists_held_of_admits fs hfs
      refine ⟨.cons x rest, fun owner => ?_⟩
      obtain ⟨c, hc, hkind⟩ := hrest owner
      exact ⟨c, List.mem_append_right _ hc, hkind⟩

theorem Body.exists_held_of_admits {k : Kind} {s : Shape}
    (hs : (s.fields.any fun f => f.2.admits k) = true) :
    ∃ n : Body s, ∀ owner, ∃ c ∈ n.held owner, c.kind = k := by
  cases s with
  | atom t => cases hs
  | form fs =>
    obtain ⟨fields, hfields⟩ := Fields.exists_held_of_admits fs hs
    exact ⟨.form fields, hfields⟩
  | dialect => cases hs

/-- **Kinds admit exactly the children that their nodes can have.** -/
theorem Kind.admits_iff_exists_child (w : Walker) {parent child : Kind}
    (hk : parent ≠ .dialect) :
    parent.admits child = true ↔
      ∃ h cs, h.kind = parent ∧ w.children h = .ok cs ∧ ∃ c ∈ cs, c.kind = child := by
  constructor
  · intro hadmits
    obtain ⟨node, hnode⟩ := Body.exists_held_of_admits hadmits
    exact ⟨⟨.cell 0, parent, node⟩, _, rfl, w.children_eq_declared hk, hnode (.cell 0)⟩
  · rintro ⟨h, cs, rfl, hcs, c, hc, rfl⟩
    exact admits_of_mem_children hk hcs hc

end SqlTree
