import Mathlib
import SqlTree.Proofs.Walk.Nesting

/-!
# How a walk fails

A walk fails when it wants to descend into a dialect node without a row, and in no other way. The
entry of that node is then the last call that is made: no child of it, no sibling and no leaving
follows, however deep the node is, and the entries that stay open are the occurrences on the way
from the root down to it.

* `Walker.Refuses` says of a call that it is such an entry.
* `pending` lists the entries of a trail that are not closed.
* `Walker.eq_append_of_refuses`: a refused entry is the end of the trail, and the failure is its
  own. This follows from what the run does at and below the entry.
* `Tree.Runs.exists_refused`: conversely a run that fails has a refused entry. Here the induction
  carries the path to it, along which the entries stay open.

Main statement: `Walker.failure_of_walk`.
-/

set_option autoImplicit false

namespace SqlTree

variable {ι σ : Type} {w : Walker} {v : Visitor ι σ}

/-- The call tells of the entry of a dialect node of the given kind, the answer is to descend, and
the kind has no row. -/
def Walker.Refuses (w : Walker) (kind : String) (c : Call ι σ) : Prop :=
  ∃ n j, c.event = .enter n ∧ c.answer = some j ∧ n.dialectKind? = some kind ∧
    w.registry.childOrder kind = none

/-! ### Entries that are not closed -/

/-- The entries of a trail that are answered with a visitor and not closed by a leaving. -/
def pending (trail : List (Path × Call ι σ)) : List (Path × Call ι σ) :=
  trail.filter fun x => x.2.opens && !trail.any fun y => y.1 == x.1 && y.2.isLeave

/-- Trails that share no occurrence do not close each other's entries. -/
theorem pending_append {l l' : List (Path × Call ι σ)} (hl : ∀ x ∈ l, ∀ y ∈ l', x.1 ≠ y.1) :
    pending (l ++ l') = pending l ++ pending l' := by
  rw [pending, List.filter_append, pending, pending]
  congr 1
  · refine List.filter_congr fun x hx => ?_
    have hnone : (l'.any fun y => y.1 == x.1 && y.2.isLeave) = false := by
      rw [List.any_eq_false]
      intro y hy
      simp [(hl x hx y hy).symm]
    rw [List.any_append, hnone, Bool.or_false]
  · refine List.filter_congr fun x hx => ?_
    have hnone : (l.any fun y => y.1 == x.1 && y.2.isLeave) = false := by
      rw [List.any_eq_false]
      intro y hy
      simp [hl y hy x hx]
    rw [List.any_append, hnone, Bool.false_or]

/-- An entry stays open if nothing that follows is about its occurrence. -/
theorem pending_cons {p : Path} {c : Call ι σ} {l : List (Path × Call ι σ)} (hc : c.opens)
    (hl : ∀ y ∈ l, y.1 ≠ p) : pending ((p, c) :: l) = (p, c) :: pending l := by
  have hsingle : pending [(p, c)] = [(p, c)] := by
    obtain ⟨n, j, hevent, -⟩ := Call.opens_iff.1 hc
    simp [pending, hc, Call.isLeave, hevent, Event.isLeave]
  rw [← List.singleton_append, pending_append, hsingle, List.singleton_append]
  intro x hx y hy
  obtain rfl := List.mem_singleton.1 hx
  exact (hl y hy).symm

/-- A run that succeeds leaves nothing open. -/
theorem Tree.Runs.pending_eq_nil {p : Path} {i : ι} {t : Tree} {s : σ} {r : Run ι σ}
    (hr : t.Runs w v p i s r) (hok : r.result = .ok ()) : pending r.trail = [] := by
  rw [pending, List.filter_eq_nil_iff]
  rintro ⟨q, c⟩ hc hpending
  rw [Bool.and_eq_true, Bool.not_eq_true', List.any_eq_false] at hpending
  obtain ⟨hopens, hnone⟩ := hpending
  obtain ⟨n, j, hevent, hanswer⟩ := Call.opens_iff.1 hopens
  obtain ⟨-, u, part, -, -, hcall, hruns, hpart⟩ :=
    hr.hasPart_of_mem (q, c) hc (Call.isLeave_eq_false_iff.2 ⟨n, hevent⟩)
  have hdescends : (v.call c.receiver (.enter u.handle) c.before).answer = some j := by
    rw [← hcall]
    exact hanswer
  -- the part at the entry succeeds with the run, so it ends with a leaving
  obtain ⟨inner, d, htrail, hd, -, -, -⟩ :=
    hruns.trail_of_answer_eq_some (hpart.result_eq_ok hok) hdescends
  obtain ⟨before, later, hsplit, -, -⟩ := hpart
  have hmem : (q, d) ∈ r.trail := by
    rw [hsplit, htrail]
    simp
  exact hnone (q, d) hmem (by simp [hd])

/-! ### A run that fails has a refused entry -/

mutual

/-- A run that fails has entered an occurrence whose children are not known, and the entries on
the way down to it are the ones that stay open. -/
theorem Tree.Runs.exists_refused {p : Path} {i : ι} {t : Tree} {s : σ} {r : Run ι σ}
    {e : WalkError} (hr : t.Runs w v p i s r) (he : r.result = .error e) :
    ∃ q n c, t.at? q = some (.stuck n e) ∧ (p ++ q, c) ∈ r.trail ∧ c.opens ∧
      (pending r.trail).map Prod.fst = q.inits.map (p ++ ·) := by
  cases hr with
  | pruned henter => cases he
  | refused henter =>
    cases he
    refine ⟨[], _, _, Tree.at?_nil _, by simp, Visitor.opens_call henter, ?_⟩
    rw [pending_cons (Visitor.opens_call henter) (by simp)]
    simp [pending]
  | left henter hbelow => cases he
  | broken henter hbelow =>
    obtain ⟨m, q, n, c, hat, hc, hopens, hchain⟩ := hbelow.exists_refused he
    rw [Nat.zero_add] at hc hchain
    refine ⟨m :: q, n, c, by simpa using hat, List.mem_cons_of_mem _ hc, hopens, ?_⟩
    -- the node itself stays open, above everything that is pending below it
    rw [pending_cons (Visitor.opens_call henter), List.map_cons, hchain]
    · simp
    · intro y hy hyp
      exact hbelow.not_prefix_start y hy (hyp ▸ List.prefix_refl p)

theorem Forest.Runs.exists_refused {p : Path} {k : Nat} {j : ι} {f : Forest} {s : σ}
    {r : Run ι σ} {e : WalkError} (hr : f.Runs w v p k j s r) (he : r.result = .error e) :
    ∃ m q n c, (f.get? m).bind (·.at? q) = some (.stuck n e) ∧
      (p ++ (k + m) :: q, c) ∈ r.trail ∧ c.opens ∧
      (pending r.trail).map Prod.fst = q.inits.map (p ++ (k + m) :: ·) := by
  cases hr with
  | nil => cases he
  | cons hfirst hrest =>
    obtain ⟨m, q, n, c, hat, hc, hopens, hchain⟩ := hrest.exists_refused he
    have hindex : k + 1 + m = k + (m + 1) := by omega
    rw [hindex] at hc hchain
    refine ⟨m + 1, q, n, c, hat, List.mem_append_right _ hc, hopens, ?_⟩
    rw [pending_append, hfirst.pending_eq_nil rfl, List.nil_append, hchain]
    intro x hx y hy hxy
    have := (hrest.not_prefix_of_mem (hfirst.prefix_of_mem x hx) y hy).1
    exact this (hxy ▸ List.prefix_refl x.1)
  | stop hfirst =>
    obtain ⟨q, n, c, hat, hc, hopens, hchain⟩ := hfirst.exists_refused he
    refine ⟨0, q, n, c, hat, by simpa using hc, hopens, ?_⟩
    rw [hchain]
    simp

end

namespace Walker

variable {i : ι} {h : Handle} {s : σ}

/-- A walk that fails has a refused entry of the kind it names. -/
theorem exists_refuses {kind : String}
    (he : (w.run v i h s).result = .error (.unregistered kind)) :
    ∃ p c, (p, c) ∈ w.trail v i h s ∧ w.Refuses kind c ∧
      (pending (w.trail v i h s)).map Prod.fst = p.inits := by
  obtain ⟨p, n, c, hat, hc, hopens, hchain⟩ := (w.runs v i h s).exists_refused he
  obtain ⟨n', j, hevent, hanswer⟩ := Call.opens_iff.1 hopens
  have hd : (w.descend p h).2 = .ok n' := descend_of_mem_trail hc hevent
  rw [w.at?_unfold, hd] at hat
  obtain ⟨rfl, hcs⟩ := children_of_unfold_eq_stuck (Option.some.inj hat)
  obtain ⟨kind', hkind, hrow, heq⟩ := children_eq_error_iff.1 hcs
  cases heq
  refine ⟨p, c, hc, ⟨n', j, hevent, hanswer, hkind, hrow⟩, ?_⟩
  simpa [trail] using hchain

/-- Without a row, all that announcing a node does is to report it. -/
theorem announced_of_row_eq_none {n : Handle} {kind : String} (hkind : n.dialectKind? = some kind)
    (hrow : w.registry.childOrder kind = none) (s : σ) :
    w.announced v n s = v.logged (.unregistered kind) s := by
  have hreport : w.report n = some (.unregistered kind) := by simp [report, hkind, hrow]
  rw [announced, announce, hreport, Visitor.logged]

/-- A refused entry is the end of the trail, and the failure is its own. -/
theorem eq_append_of_refuses {p : Path} {c : Call ι σ} {kind : String}
    (hc : (p, c) ∈ w.trail v i h s) (hrefuses : w.Refuses kind c) :
    ∃ before, w.trail v i h s = before ++ [(p, c)] ∧ (∀ y ∈ before, ¬ p <+: y.1) ∧
      (w.run v i h s).result = .error (.unregistered kind) ∧
      (w.run v i h s).state = v.logged (.unregistered kind) c.after := by
  obtain ⟨n, j, hevent, hanswer, hkind, hrow⟩ := hrefuses
  obtain ⟨n', part, -, hcall, hruns, before, later, htrail, hothers, hend⟩ :=
    hasPart_of_mem_trail hc (Call.isLeave_eq_false_iff.2 ⟨n, hevent⟩)
  rw [hcall] at hevent
  cases hevent
  rw [unfold_eq_stuck (children_eq_error_iff.2 ⟨kind, hkind, hrow, rfl⟩)] at hruns
  cases hruns with
  | pruned henter =>
    rw [Tree.handle, ← hcall, hanswer] at henter
    cases henter
  | refused henter =>
    -- the part at the entry fails, so it is the end of the run
    obtain hend | ⟨hresult, hstate, rfl⟩ := hend
    · cases hend
    · rw [← hcall] at htrail hstate
      rw [announced_of_row_eq_none hkind hrow] at hstate
      exact ⟨before, by simpa [trail] using htrail, by simpa using hothers, hresult.symm,
        hstate.symm⟩

/-- **How a walk fails.** A walk fails for a kind exactly if it makes a call that enters a dialect
node of that kind, is answered with a visitor, and finds no row. This call is then the last one
and the only one of its sort, nothing but the report of the failure happens after it, and the
entries that stay open are the occurrences from the root down to the node, in this order. Below
a pruned occurrence no call is made, so nothing there makes a walk fail. -/
theorem failure_of_walk (w : Walker) (v : Visitor ι σ) (i : ι) (h : Handle) (s : σ) :
    w.Places h (w.calls v i h s) (w.trail v i h s) ∧
    (∀ kind, ((w.walk v i h).run.run s).1 = .error (.unregistered kind) ↔
      ∃ c ∈ w.calls v i h s, w.Refuses kind c) ∧
    (∀ kind, ((w.walk v i h).run.run s).1 = .error (.unregistered kind) →
      ∃ before p c, w.trail v i h s = before ++ [(p, c)] ∧ w.Refuses kind c ∧
        (∀ x ∈ before, ∀ kind', ¬ w.Refuses kind' x.2) ∧
        ((w.walk v i h).run.run s).2 = v.logged (.unregistered kind) c.after ∧
        ((∀ entry t, v.logged entry t = t) → ((w.walk v i h).run.run s).2 = c.after) ∧
        (pending (w.trail v i h s)).map Prod.fst = p.inits) ∧
    (∀ p c, (p, c) ∈ w.trail v i h s → c.prunes →
      ∀ q d, (q, d) ∈ w.trail v i h s → p <+: q → d = c ∧ ∀ kind, ¬ w.Refuses kind d) := by
  refine ⟨w.places_trail v i h s, fun kind => ⟨fun he => ?_, ?_⟩, fun kind he => ?_,
    fun p c hc hprunes q d hd hpq => ?_⟩
  · rw [run_walk] at he
    obtain ⟨p, c, hc, hrefuses, -⟩ := exists_refuses he
    exact ⟨c, w.map_snd_trail v i h s ▸ List.mem_map_of_mem hc, hrefuses⟩
  · rintro ⟨c, hc, hrefuses⟩
    rw [← map_snd_trail] at hc
    obtain ⟨⟨p, c⟩, hpc, rfl⟩ := List.mem_map.1 hc
    obtain ⟨-, -, -, hresult, -⟩ := eq_append_of_refuses hpc hrefuses
    rw [run_walk]
    exact hresult
  · rw [run_walk] at he ⊢
    obtain ⟨p, c, hc, hrefuses, hchain⟩ := exists_refuses he
    obtain ⟨before, htrail, hothers, -, hstate⟩ := eq_append_of_refuses hc hrefuses
    refine ⟨before, p, c, htrail, hrefuses, ?_, hstate, fun hlog => hstate.trans (hlog _ _),
      hchain⟩
    -- a second refused entry would be the end of the trail as well
    rintro ⟨q, d⟩ hd kind' hrefuses'
    have hmem : (q, d) ∈ w.trail v i h s := htrail ▸ List.mem_append_left _ hd
    obtain ⟨before', htrail', -, -, -⟩ := eq_append_of_refuses hmem hrefuses'
    obtain ⟨-, hlast⟩ := List.append_inj' (htrail.symm.trans htrail') rfl
    cases hlast
    exact hothers (p, c) hd (List.prefix_refl p)
  · obtain ⟨before, later, htrail, hothers⟩ := alone_of_prunes hc hprunes
    have hdc : d = c := by
      rw [htrail, List.mem_append, List.mem_cons] at hd
      rcases hd with hd | hd | hd
      · exact absurd hpq (hothers _ (List.mem_append_left _ hd))
      · cases hd
        rfl
      · exact absurd hpq (hothers _ (List.mem_append_right _ hd))
    refine ⟨hdc, ?_⟩
    rintro kind ⟨n, j, -, hanswer, -⟩
    obtain ⟨-, -, hnone⟩ := Call.prunes_iff.1 hprunes
    rw [hdc, hnone] at hanswer
    cases hanswer

/-- The walk of the clause fails where the kind of its hint is not known. -/
theorem failure_hinted :
    ((({} : Walker).walk (.relay none) false .hinted).run.run 0).1 =
      .error (.unregistered "hint") ∧
    ∃ before p c, ({} : Walker).trail (.relay none) false .hinted 0 = before ++ [(p, c)] ∧
      ({} : Walker).Refuses "hint" c ∧
      (∀ x ∈ before, ∀ kind', ¬ ({} : Walker).Refuses kind' x.2) ∧
      ((({} : Walker).walk (.relay none) false .hinted).run.run 0).2 =
        (Visitor.relay none).logged (.unregistered "hint") c.after ∧
      ((∀ entry t, (Visitor.relay none).logged entry t = t) →
        ((({} : Walker).walk (.relay none) false .hinted).run.run 0).2 = c.after) ∧
      (pending (({} : Walker).trail (.relay none) false .hinted 0)).map Prod.fst = p.inits := by
  have he : ((({} : Walker).walk (.relay none) false .hinted).run.run 0).1 =
      .error (.unregistered "hint") := by cbv
  exact ⟨he, (failure_of_walk {} (.relay none) false .hinted 0).2.2.1 "hint" he⟩

end Walker

end SqlTree
