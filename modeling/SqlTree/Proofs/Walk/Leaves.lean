import Mathlib
import SqlTree.Proofs.Node.Admission
import SqlTree.Proofs.Walk.Trail

/-!
# Leaves

The kinds that are called leaves are the ones whose nodes never have children, whatever is in them
and whatever is registered. So a walk that descends into a leaf leaves it at once.

* `Kind.isLeaf_iff_admits_none`: the leaves are the built-in kinds that admit no child at all.
* `Walker.children_of_isLeaf`: a leaf has no children. `Walker.exists_child_of_not_isLeaf`: every
  other kind has a node with a child, for some registry.
* `Walker.leave_follows_leaf`: right after a leaf is entered, it is left.

Main statement: `Walker.leaves_agree_with_children`.
-/

set_option autoImplicit false

namespace SqlTree

variable {ι σ : Type}

/-- The leaves are the built-in kinds that admit no child. -/
theorem Kind.isLeaf_iff_admits_none {k : Kind} (hk : k ≠ .dialect) :
    k.isLeaf = true ↔ ∀ child, k.admits child = false := by
  have hall : ∀ k ∈ all, k ≠ .dialect →
      (k.isLeaf = true ↔ ∀ child ∈ all, k.admits child = false) := by
    decide +kernel
  rw [hall k (mem_all k) hk]
  exact ⟨fun hnone child => hnone child (mem_all child), fun hnone child _ => hnone child⟩

theorem Kind.ne_dialect_of_isLeaf {k : Kind} (hk : k.isLeaf = true) : k ≠ .dialect := by
  rintro rfl
  cases hk

namespace Walker

/-- A leaf has no children. -/
theorem children_of_isLeaf (w : Walker) {h : Handle} (hleaf : h.kind.isLeaf = true) :
    w.children h = .ok [] := by
  have hk := Kind.ne_dialect_of_isLeaf hleaf
  have hchildren := w.children_eq_declared hk
  have hnone : h.declared = [] := by
    refine List.eq_nil_iff_forall_not_mem.2 fun c hc => ?_
    have hadmits := Kind.admits_of_mem_children hk hchildren hc
    rw [(Kind.isLeaf_iff_admits_none hk).1 hleaf] at hadmits
    cases hadmits
  rw [hchildren, hnone]

/-- Every kind that is not a leaf has a node with a child, once the right rows are registered. -/
theorem exists_child_of_not_isLeaf {k : Kind} (hk : k.isLeaf = false) :
    ∃ (w : Walker) (h c : Handle) (cs : List Handle),
      h.kind = k ∧ w.children h = .ok (c :: cs) := by
  by_cases hdialect : k = .dialect
  · subst hdialect
    exact ⟨hinting, ⟨.cell 0, .dialect, .hint .hinted⟩, _, _, rfl, rfl⟩
  · -- a kind that is not a leaf admits some child, and what it admits can be had
    have hsome : ∃ child, k.admits child = true := by
      by_contra hnone
      have hleaf := (Kind.isLeaf_iff_admits_none hdialect).2
        fun child => Bool.eq_false_iff.2 fun hadmits => hnone ⟨child, hadmits⟩
      cases hk.symm.trans hleaf
    obtain ⟨child, hadmits⟩ := hsome
    obtain ⟨h, cs, hkind, hcs, c, hc, -⟩ :=
      (Kind.admits_iff_exists_child {} hdialect).1 hadmits
    cases cs with
    | nil => cases hc
    | cons c' cs => exact ⟨{}, h, c', cs, hkind, hcs⟩

/-! ### Walks through leaves -/

variable {w : Walker} {v : Visitor ι σ} {i : ι} {h : Handle} {s : σ}

/-- Leaves are not reported, so nothing happens between the entry and the first child. -/
theorem announced_of_isLeaf (w : Walker) (v : Visitor ι σ) {n : Handle}
    (hleaf : n.kind.isLeaf = true) (t : σ) : w.announced v n t = t := by
  have hreport : w.report n = none := by
    rw [report, Handle.dialectKind?_eq_none_iff.2 (Kind.ne_dialect_of_isLeaf hleaf)]
  rw [announced, announce, hreport]
  rfl

/-- The run of a leaf into which the visitor wants to descend: it is entered and left. -/
theorem trail_of_runs_leaf {p : Path} {j : ι} {n : Handle} {r : Run ι σ}
    (hleaf : n.kind.isLeaf = true) (hr : (w.unfold n).Runs w v p i s r)
    (hanswer : (v.call i (.enter n) s).answer = some j) :
    r.trail = [(p, v.call i (.enter n) s),
      (p, v.call i .leave (v.call i (.enter n) s).after)] := by
  rw [unfold_eq_node (w.children_of_isLeaf hleaf)] at hr
  cases hr with
  | pruned henter => cases henter.symm.trans hanswer
  | left henter hbelow =>
    cases hbelow
    rw [w.announced_of_isLeaf v hleaf]
    rfl
  | broken henter hbelow => cases hbelow

/-- **Right after a leaf is entered, it is left.** The call that follows the entry of a leaf, unless
the leaf is pruned, is the leaving of the same occurrence: it is made of the same visitor, in the
state in which the entry leaves it. -/
theorem leave_follows_leaf {before later : List (Path × Call ι σ)} {p : Path} {c : Call ι σ}
    {n : Handle} (hsplit : w.trail v i h s = before ++ (p, c) :: later)
    (hn : c.event = .enter n) (hleaf : n.kind.isLeaf = true) (hopens : c.opens) :
    ∃ later', later = (p, v.call c.receiver .leave c.after) :: later' := by
  have hc : (p, c) ∈ w.trail v i h s := by simp [hsplit]
  obtain ⟨n', part, -, hcall, hruns, before', later', htrail, hothers, -⟩ :=
    hasPart_of_mem_trail hc (Call.isLeave_eq_false_iff.2 ⟨n, hn⟩)
  obtain ⟨-, j, -, hanswer⟩ := Call.opens_iff.1 hopens
  rw [hcall] at hn hanswer
  cases hn
  have hpart := trail_of_runs_leaf hleaf hruns hanswer
  rw [← hcall] at hpart
  -- the entry is made only once, so this split of the trail is the given one
  rw [← trail, hpart, hsplit, List.append_assoc] at htrail
  have hbefore : (p, c) ∉ before' := fun hmem =>
    hothers (p, c) (List.mem_append_left _ hmem) (List.prefix_refl p)
  have hafter : (p, c) ∉ (p, v.call c.receiver .leave c.after) :: later' := by
    intro hmem
    rcases List.mem_cons.1 hmem with heq | hmem
    · rw [(Prod.mk.inj heq).2] at hopens
      cases hopens
    · exact hothers (p, c) (List.mem_append_right _ hmem) (List.prefix_refl p)
  obtain ⟨-, -, hlater⟩ := (List.append_cons_inj_of_notMem hbefore hafter).1 htrail.symm
  exact ⟨later', hlater.symm⟩

/-- **Leaves are the kinds without children.** A leaf has no children, whatever is registered, and a
walk that descends into one leaves it with the next call. Every kind that is not a leaf has a node
with a child, for some registry, so the leaves are exactly the kinds whose nodes can never have
children. In particular, types have no children, however deep their arrays are nested. -/
theorem leaves_agree_with_children :
    (∀ (w : Walker) (h : Handle), h.kind.isLeaf = true → w.children h = .ok []) ∧
    (∀ (w : Walker) (v : Visitor ι σ) (i : ι) (h : Handle) (s : σ),
      w.Places h (w.calls v i h s) (w.trail v i h s) ∧
      ∀ before p c later n, w.trail v i h s = before ++ (p, c) :: later → c.event = .enter n →
        n.kind.isLeaf = true → c.opens →
        ∃ later', later = (p, v.call c.receiver .leave c.after) :: later') ∧
    (∀ k : Kind, k.isLeaf = false → ∃ (w : Walker) (h c : Handle) (cs : List Handle),
      h.kind = k ∧ w.children h = .ok (c :: cs)) ∧
    (∀ k : Kind, k.isLeaf = true ↔
      ∀ (w : Walker) (h : Handle) cs, h.kind = k → w.children h = .ok cs → cs = []) ∧
    ∀ (w : Walker) (place : Place) (d : DataType),
      w.children ⟨place, .dataType, .atom d⟩ = .ok [] := by
  refine ⟨fun w h hleaf => w.children_of_isLeaf hleaf, fun w v i h s => ⟨w.places_trail v i h s,
    fun before p c later n hsplit hn hleaf hopens => leave_follows_leaf hsplit hn hleaf hopens⟩,
    fun k hk => exists_child_of_not_isLeaf hk, fun k => ⟨?_, fun hnever => ?_⟩,
    fun w place d => w.children_of_isLeaf rfl⟩
  · rintro hleaf w h cs rfl hcs
    rw [w.children_of_isLeaf hleaf] at hcs
    cases hcs
    rfl
  · by_contra hk
    obtain ⟨w, h, c, cs, hkind, hcs⟩ := exists_child_of_not_isLeaf (Bool.eq_false_iff.2 hk)
    cases hnever w h _ hkind hcs

/-- The operator of the comparison is a leaf and is left at once, a type of nested arrays is a leaf,
and an explanation is not. -/
theorem leaves_selfCompared :
    let v : Visitor Bool Nat := .relay none
    let h : Handle := .selfCompared
    (∃ before p c later n, ({} : Walker).trail v false h 0 = before ++ (p, c) :: later ∧
      before.length = 4 ∧ c.event = .enter n ∧ n.kind = .operator ∧ n.kind.isLeaf = true ∧
      c.opens ∧ ∃ later', later = (p, v.call c.receiver .leave c.after) :: later') ∧
    (Kind.dataType.isLeaf = true ∧
      ({} : Walker).children ⟨.cell 0, .dataType, .atom (.array (.array .int))⟩ = .ok []) ∧
    Kind.explain.isLeaf = false ∧ ∃ (w : Walker) (h c : Handle) (cs : List Handle),
      h.kind = .explain ∧ w.children h = .ok (c :: cs) := by
  intro v h
  obtain ⟨hchildren, hwalks, hothers, -, -⟩ := @leaves_agree_with_children Bool Nat
  have hlength : (({} : Walker).trail v false h 0).length = 10 := by cbv
  have hsplit := List.take_append_drop 4 (({} : Walker).trail v false h 0)
  rw [List.drop_eq_getElem_cons (by omega)] at hsplit
  have hevent : ((({} : Walker).trail v false h 0)[4]).2.event =
      .enter ⟨.field (.cell 0) "op", .operator, .atom .eq⟩ := by cbv
  have hopens : ((({} : Walker).trail v false h 0)[4]).2.opens := by cbv
  exact ⟨⟨_, _, _, _, _, hsplit.symm, by simp [hlength], hevent, rfl, rfl, hopens,
    (hwalks {} v false h 0).2 _ _ _ _ _ hsplit.symm hevent rfl hopens⟩,
    ⟨rfl, hchildren {} _ rfl⟩, rfl, hothers .explain rfl⟩

end Walker

end SqlTree
