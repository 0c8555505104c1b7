import Mathlib.Data.List.Induction
import SqlTree.Proofs.Walk.Routing

/-!
# Which occurrences are entered, and when

Paths are ordered like words: a path precedes its extensions, and otherwise the first index that
differs decides. A walk enters occurrences in this order, whether it fails or not, and a walk that
succeeds leaves out only what a visitor has pruned.

* `Tree.Runs.increasing_entered`: entries come in strictly increasing order of their paths.
* `Walker.exists_entry_iff`: in a walk that succeeds, the occurrences that are entered are exactly
  those with all proper ancestors opened.
-/

set_option autoImplicit false

namespace SqlTree

variable {ι σ : Type} {w : Walker} {v : Visitor ι σ}

/-! ### The order of paths -/

/-- A path precedes what is below it. -/
theorem lt_of_below {p q : Path} {k : Nat} (hk : p ++ [k] <+: q) : p < q := by
  obtain ⟨x, rfl⟩ := hk
  have hlt : p ++ [] < p ++ k :: x := List.append_left_lt (List.nil_lt_cons k x)
  simpa using hlt

/-- What is below a child precedes what is below a later child. -/
theorem lt_of_index_lt {p q r : Path} {k m : Nat} (hk : p ++ [k] <+: q) (hm : p ++ [m] <+: r)
    (hkm : k < m) : q < r := by
  obtain ⟨x, rfl⟩ := hk
  obtain ⟨y, rfl⟩ := hm
  have hlt : p ++ k :: x < p ++ m :: y :=
    List.append_left_lt (List.cons_lt_cons_iff.2 (.inl hkm))
  simpa using hlt

mutual

/-- **Entries come in the order of their paths.** -/
theorem Tree.Runs.increasing_entered {p : Path} {i : ι} {t : Tree} {s : σ} {r : Run ι σ}
    (hr : t.Runs w v p i s r) : (entered r.trail).Pairwise (· < ·) := by
  cases hr with
  | pruned henter => exact List.pairwise_singleton _ _
  | refused henter => exact List.pairwise_singleton _ _
  | left henter hbelow =>
    rw [entered_cons_enter, entered_append, entered_leave, List.append_nil]
    refine List.pairwise_cons.2 ⟨fun q hq => ?_, hbelow.increasing_entered⟩
    obtain ⟨x, hx, rfl⟩ := exists_of_mem_entered hq
    obtain ⟨m, -, hm⟩ := hbelow.prefix_of_mem x hx
    exact lt_of_below hm
  | broken henter hbelow =>
    rw [entered_cons_enter]
    refine List.pairwise_cons.2 ⟨fun q hq => ?_, hbelow.increasing_entered⟩
    obtain ⟨x, hx, rfl⟩ := exists_of_mem_entered hq
    obtain ⟨m, -, hm⟩ := hbelow.prefix_of_mem x hx
    exact lt_of_below hm

theorem Forest.Runs.increasing_entered {p : Path} {k : Nat} {j : ι} {f : Forest} {s : σ}
    {r : Run ι σ} (hr : f.Runs w v p k j s r) : (entered r.trail).Pairwise (· < ·) := by
  cases hr with
  | nil => exact List.Pairwise.nil
  | cons hfirst hrest =>
    rw [entered_append, List.pairwise_append]
    refine ⟨hfirst.increasing_entered, hrest.increasing_entered, fun a ha b hb => ?_⟩
    obtain ⟨x, hx, rfl⟩ := exists_of_mem_entered ha
    obtain ⟨y, hy, rfl⟩ := exists_of_mem_entered hb
    obtain ⟨m, hkm, hm⟩ := hrest.prefix_of_mem y hy
    exact lt_of_index_lt (hfirst.prefix_of_mem x hx) hm hkm
  | stop hfirst => exact hfirst.increasing_entered

end

/-! ### What a walk that succeeds enters -/

/-- A run over a forest that succeeds enters each of its trees. -/
theorem Forest.Runs.exists_entry_of_get? {p : Path} {k m : Nat} {j : ι} {f : Forest} {t : Tree}
    {s : σ} {r : Run ι σ} (hr : f.Runs w v p k j s r) (hok : r.result = .ok ())
    (ht : f.get? m = some t) : ∃ s', (p ++ [k + m], v.call j (.enter t.handle) s') ∈ r.trail := by
  induction m generalizing f k s r with
  | zero =>
    cases hr with
    | nil => cases ht
    | @cons _ _ _ _ _ _ _ trail _ hfirst hrest =>
      cases ht
      obtain ⟨rest, htrail⟩ := hfirst.exists_cons
      obtain rfl : trail = _ :: rest := htrail
      exact ⟨s, List.mem_append_left _ List.mem_cons_self⟩
    | stop hfirst => cases hok
  | succ m ih =>
    cases hr with
    | nil => cases ht
    | cons hfirst hrest =>
      obtain ⟨s', hs'⟩ := ih hrest hok ht
      rw [Nat.add_assoc, Nat.add_comm 1 m] at hs'
      exact ⟨s', List.mem_append_right _ hs'⟩
    | stop hfirst => cases hok

/-- A run that succeeds and descends into a node enters each of its children. -/
theorem Tree.Runs.exists_entry_of_child {p : Path} {i j : ι} {h c : Handle} {cs : List Handle}
    {k : Nat} {s : σ} {r : Run ι σ} (hr : (w.unfold h).Runs w v p i s r) (hok : r.result = .ok ())
    (hanswer : (v.call i (.enter h) s).answer = some j) (hcs : w.children h = .ok cs)
    (hc : cs[k]? = some c) : ∃ s', (p ++ [k], v.call j (.enter c) s') ∈ r.trail := by
  rw [Walker.unfold_eq_node hcs] at hr
  cases hr with
  | pruned henter => cases henter.symm.trans hanswer
  | left henter hbelow =>
    obtain rfl := Option.some.inj (henter.symm.trans hanswer)
    have hget : (Forest.ofList (cs.map w.unfold)).get? k = some (w.unfold c) := by
      rw [Forest.get?_ofList, List.getElem?_map, hc]
      rfl
    obtain ⟨s', hs'⟩ := hbelow.exists_entry_of_get? rfl hget
    rw [Nat.zero_add, w.handle_unfold] at hs'
    exact ⟨s', List.mem_cons_of_mem _ (List.mem_append_left _ hs')⟩
  | broken henter hbelow => cases hok

namespace Walker

variable {i : ι} {h : Handle} {s : σ}

/-- The parent of an occurrence that is entered has been opened. -/
theorem exists_opens_parent {p : Path} {k : Nat} {c : Call ι σ}
    (hc : (p ++ [k], c) ∈ w.trail v i h s) (hentry : c.isLeave = false) :
    ∃ d, (p, d) ∈ w.trail v i h s ∧ d.opens := by
  obtain ⟨d, hd, hdentry, hanswer, -⟩ := (w.routed_trail v i h s).child p k c hc hentry
  obtain ⟨n, hevent⟩ := Call.isLeave_eq_false_iff.1 hdentry
  exact ⟨d, hd, Call.opens_iff.2 ⟨n, _, hevent, hanswer⟩⟩

/-- All proper ancestors of an occurrence that is entered have been opened. -/
theorem exists_opens_ancestor {p x : Path} (hx : x ≠ []) {c : Call ι σ}
    (hc : (p ++ x, c) ∈ w.trail v i h s) (hentry : c.isLeave = false) :
    ∃ d, (p, d) ∈ w.trail v i h s ∧ d.opens := by
  -- the path is taken off from its end, one ancestor after the other
  induction x using List.reverseRecOn generalizing c with
  | nil => exact absurd rfl hx
  | append_singleton x k ih =>
    rw [← List.append_assoc] at hc
    obtain ⟨d, hd, hopens⟩ := exists_opens_parent hc hentry
    by_cases hnil : x = []
    · rw [hnil, List.append_nil] at hd
      exact ⟨d, hd, hopens⟩
    · obtain ⟨n, j, hevent, -⟩ := Call.opens_iff.1 hopens
      exact ih hnil hd (Call.isLeave_eq_false_iff.2 ⟨n, hevent⟩)

/-- A node that a path leads to has been entered if its parent has been opened. -/
theorem exists_entry_of_opens_parent (hok : (w.run v i h s).result = .ok ()) {p : Path} {k : Nat}
    {n : Handle} (hn : (w.descend (p ++ [k]) h).2 = .ok n) {d : Call ι σ}
    (hd : (p, d) ∈ w.trail v i h s) (hopens : d.opens) :
    ∃ c, (p ++ [k], c) ∈ w.trail v i h s ∧ c.event = .enter n := by
  obtain ⟨m, cs, hm, hcs, hk⟩ := descend_concat_eq_ok_iff.1 hn
  obtain ⟨m', j, hevent, hanswer⟩ := Call.opens_iff.1 hopens
  obtain ⟨n', part, hn', hcall, hruns, hpart⟩ :=
    hasPart_of_mem_trail hd (Call.isLeave_eq_false_iff.2 ⟨m', hevent⟩)
  obtain rfl : m = n' := Except.ok.inj (hm.symm.trans hn')
  rw [hcall] at hanswer
  obtain ⟨s', hs'⟩ := hruns.exists_entry_of_child (hpart.result_eq_ok hok) hanswer hcs hk
  obtain ⟨before, later, htrail, -, -⟩ := hpart
  refine ⟨v.call j (.enter n) s', ?_, rfl⟩
  rw [trail, htrail]
  exact List.mem_append_left _ (List.mem_append_right _ hs')

/-- **A walk that succeeds enters all but what is pruned.** The occurrences that are entered are
those that a path leads to, with all proper ancestors opened. -/
theorem exists_entry_iff (hok : (w.run v i h s).result = .ok ()) {p : Path} {n : Handle} :
    (∃ c, (p, c) ∈ w.trail v i h s ∧ c.event = .enter n) ↔
      (w.descend p h).2 = .ok n ∧
        ∀ a, a <+: p → a ≠ p → ∃ d, (a, d) ∈ w.trail v i h s ∧ d.opens := by
  constructor
  · rintro ⟨c, hc, hevent⟩
    refine ⟨descend_of_mem_trail hc hevent, fun a ha hne => ?_⟩
    obtain ⟨x, rfl⟩ := ha
    have hx : x ≠ [] := fun hnil => hne (by simp [hnil])
    exact exists_opens_ancestor hx hc (Call.isLeave_eq_false_iff.2 ⟨n, hevent⟩)
  · rintro ⟨hn, hancestors⟩
    rcases List.eq_nil_or_concat p with rfl | ⟨p, k, rfl⟩
    · obtain ⟨rest, htrail⟩ := (w.runs v i h s).exists_cons
      obtain rfl : h = n := Except.ok.inj hn
      rw [w.handle_unfold] at htrail
      exact ⟨_, by rw [trail, htrail]; exact List.mem_cons_self, rfl⟩
    · rw [List.concat_eq_append] at hn hancestors ⊢
      obtain ⟨d, hd, hopens⟩ := hancestors p (List.prefix_append p [k]) (by simp)
      exact exists_entry_of_opens_parent hok hn hd hopens

end Walker

end SqlTree
