import Mathlib
import SqlTree.Proofs.Node.Admission
import SqlTree.Proofs.Walk.Trail

/-!
# Where statements can stand

Queries occur inside other nodes; all other statements stand at the top of a tree, except that a
statement can be explained. Only what is below a dialect node is not bound by the grammar.

* `Kind.eq_explain_of_admits`: by the declared fields, no other kind has a statement that is not a
  query as a child.
* `Walker.Above` is the relation of an occurrence to the nodes above it.

Main statement: `Walker.statements_nest_under_explain`.
-/

set_option autoImplicit false

namespace SqlTree

/-- A statement that is not a query can only be the child of an explanation. -/
theorem Kind.eq_explain_of_admits {parent child : Kind} (hchild : child.isStatement = true)
    (hquery : child ≠ .query) (hadmits : parent.admits child = true) : parent = .explain := by
  have hall : ∀ parent ∈ all, ∀ child ∈ all, child.isStatement = true → child ≠ .query →
      parent.admits child = true → parent = .explain := by
    decide +kernel
  exact hall parent (mem_all parent) child (mem_all child) hchild hquery hadmits

/-- An explanation has a statement or a dialect node as a child. -/
theorem Kind.isStatement_of_explain_admits {child : Kind}
    (hadmits : Kind.explain.admits child = true) :
    child.isStatement = true ∨ child = .dialect := by
  have hall : ∀ child ∈ all, Kind.explain.admits child = true →
      child.isStatement = true ∨ child = .dialect := by
    decide +kernel
  exact hall child (mem_all child) hadmits

namespace Walker

/-- A node stands above the occurrence at a path: it is the node of one of its proper ancestors. -/
def Above (w : Walker) (root : Handle) (path : Path) (m : Handle) : Prop :=
  ∃ a, a <+: path ∧ a ≠ path ∧ (w.descend a root).2 = .ok m

variable {w : Walker} {root : Handle} {path : Path} {k : Nat}

theorem not_above_nil {m : Handle} : ¬ w.Above root [] m := by
  rintro ⟨a, ha, hne, -⟩
  exact hne (List.prefix_nil.1 ha)

/-- What stands above a child is its parent and what stands above that. -/
theorem above_concat_iff {p m : Handle} (hp : (w.descend path root).2 = .ok p) :
    w.Above root (path ++ [k]) m ↔ m = p ∨ w.Above root path m := by
  constructor
  · rintro ⟨a, ha, hne, hm⟩
    have hap : a <+: path := (List.prefix_concat_iff.1 ha).resolve_left hne
    by_cases hlast : a = path
    · subst hlast
      exact .inl (Except.ok.inj (hm.symm.trans hp))
    · exact .inr ⟨a, hap, hlast, hm⟩
  · rintro (rfl | ⟨a, ha, -, hm⟩)
    · exact ⟨path, List.prefix_append path [k], by simp, hp⟩
    · refine ⟨a, ha.trans (List.prefix_append path [k]), ?_, hm⟩
      rintro rfl
      exact not_prefix_of_below (List.prefix_refl (path ++ [k])) ha

/-- From a statement up, one explanation follows another. -/
theorem explain_of_above {n : Handle} (hn : (w.descend path root).2 = .ok n)
    (hstatement : n.kind.isStatement = true) (hquery : n.kind ≠ .query)
    (hbuiltIn : ∀ m, w.Above root path m → m.kind ≠ .dialect) :
    ∀ m, w.Above root path m → m.kind = .explain := by
  induction path using List.reverseRecOn generalizing n with
  | nil => exact fun m hm => absurd hm not_above_nil
  | append_singleton path k ih =>
    obtain ⟨p, cs, hp, hcs, hk⟩ := descend_concat_eq_ok_iff.1 hn
    -- the parent is bound by the grammar, and the grammar leaves it no choice
    have hpk : p.kind ≠ .dialect := hbuiltIn p ((above_concat_iff hp).2 (.inl rfl))
    have hadmits := Kind.admits_of_mem_children hpk hcs (List.mem_of_getElem? hk)
    have hexplain : p.kind = .explain := Kind.eq_explain_of_admits hstatement hquery hadmits
    -- and it is a statement itself, so the same holds of its own parent
    have hrest := ih hp (by rw [hexplain]; rfl) (by rw [hexplain]; decide)
      fun m hm => hbuiltIn m ((above_concat_iff hp).2 (.inr hm))
    intro m hm
    rcases (above_concat_iff hp).1 hm with rfl | hm
    · exact hexplain
    · exact hrest m hm

/-- An explanation has one child. -/
theorem children_of_explain (w : Walker) {h : Handle} (hk : h.kind = .explain) :
    ∃ c, w.children h = .ok [c] := by
  rw [w.children_eq_declared (by rw [hk]; decide)]
  obtain ⟨place, kind, node⟩ := h
  obtain rfl : kind = .explain := hk
  cases node with
  | form fields =>
    cases fields with
    | cons content rest =>
      cases content with
      | ref cell k accepted node =>
        cases rest
        exact ⟨_, rfl⟩

/-- **Statements nest only under explanations.** If an occurrence is a statement other than a
query, and no dialect node stands above it, then nothing but explanations stands above it.
Conversely, an explanation has one child, and this is a statement or a dialect node. -/
theorem statements_nest_under_explain (w : Walker) :
    (∀ root path n, (w.descend path root).2 = .ok n → n.kind.isStatement = true →
      n.kind ≠ .query → (∀ m, w.Above root path m → m.kind ≠ .dialect) →
      ∀ m, w.Above root path m → m.kind = .explain) ∧
    ∀ h : Handle, h.kind = .explain →
      ∃ c, w.children h = .ok [c] ∧ (c.kind.isStatement = true ∨ c.kind = .dialect) := by
  refine ⟨fun root path n hn hstatement hquery hbuiltIn =>
    explain_of_above hn hstatement hquery hbuiltIn, fun h hk => ?_⟩
  obtain ⟨c, hc⟩ := w.children_of_explain hk
  have hadmits := Kind.admits_of_mem_children (by rw [hk]; decide) hc (List.mem_singleton_self c)
  rw [hk] at hadmits
  exact ⟨c, hc, Kind.isStatement_of_explain_admits hadmits⟩

end Walker

/-- The explanation of the explanation of a statement that drops an index. -/
def Handle.explained : Handle where
  place := .cell 0
  kind := .explain
  node :=
    let dropped : Node .dropIndex :=
      .form (.cons (.list 0 (.cons (.inline (.atom ⟨"i", none, ⟨0, 1⟩⟩)) .nil)) .nil)
    .form (.cons (.ref 1 .explain rfl (.form (.cons (.ref 2 .dropIndex rfl dropped) .nil))) .nil)

namespace Walker

/-- The statement that is explained twice. -/
theorem statements_explained :
    let w : Walker := {}
    (∃ n, (w.descend [0, 0] .explained).2 = .ok n ∧ n.kind = .dropIndex ∧
      (∀ m, w.Above .explained [0, 0] m → m.kind ≠ .dialect) ∧
      w.Above .explained [0, 0] .explained ∧
      ∀ m, w.Above .explained [0, 0] m → m.kind = .explain) ∧
    Handle.explained.kind = .explain ∧
    ∃ c, w.children .explained = .ok [c] ∧ (c.kind.isStatement = true ∨ c.kind = .dialect) := by
  intro w
  have hbuiltIn : ∀ m, w.Above .explained [0, 0] m → m.kind ≠ .dialect := by
    rintro m ⟨a, ha, hne, hm⟩
    have hcases : a = [] ∨ a = [0] := by
      have hinits := (List.mem_inits a [0, 0]).2 ha
      simpa [List.inits, hne] using hinits
    rcases hcases with rfl | rfl <;> cases hm <;> decide
  have hroot : w.Above .explained [0, 0] .explained := ⟨[], by simp, by simp, rfl⟩
  obtain ⟨hnest, hchild⟩ := statements_nest_under_explain w
  exact ⟨⟨_, rfl, rfl, hbuiltIn, hroot, hnest _ _ _ rfl rfl (by decide) hbuiltIn⟩, rfl,
    hchild _ rfl⟩

end Walker

end SqlTree
