import Mathlib
import SqlTree.Proofs.Walk.Journal
import SqlTree.Proofs.Walk.Routing

/-!
# Walks of subtrees

A walk may be started at any node of a tree, and it then does what a larger walk does when it comes
to the node: it makes the same calls, in the same states, and ends in the same way. So what happens
at and below an occurrence depends on nothing but the visitor that is told of its entry and the
state at that moment.

* `Stretch` is the sequence of calls from the entry of an occurrence to the leaving that closes it.
* `mem_pending_iff`: an entry stays open if it is answered with a visitor and never closed.
* `Walker.exists_stretch_of_not_pending` and `Walker.exists_suffix_of_pending` say what a walk does
  from an entry on, in the two cases.

Main statement: `Walker.walk_local`.
-/

set_option autoImplicit false

namespace SqlTree

variable {ι σ : Type} {w : Walker} {v : Visitor ι σ}

/-! ### Stretches -/

/-- The calls from the entry `c` of the occurrence at `p` to the leaving that closes it, with those
below the occurrence in between; a pruned entry stands alone. -/
inductive Stretch (p : Path) (c : Call ι σ) : List (Path × Call ι σ) → Prop
  | pruned (hc : c.prunes) : Stretch p c [(p, c)]
  | closed {inner : List (Path × Call ι σ)} {d : Call ι σ} (hc : c.opens) (hd : d.isLeave)
      (hinner : ∀ y ∈ inner, p <+: y.1 ∧ y.1 ≠ p) : Stretch p c ((p, c) :: (inner ++ [(p, d)]))

/-- A run that succeeds is a stretch. -/
theorem Tree.Runs.stretch {p : Path} {i : ι} {t : Tree} {s : σ} {r : Run ι σ}
    (hr : t.Runs w v p i s r) (hok : r.result = .ok ()) :
    Stretch p (v.call i (.enter t.handle) s) r.trail := by
  cases hanswer : (v.call i (.enter t.handle) s).answer with
  | none =>
    rw [hr.trail_of_answer_eq_none hanswer]
    exact .pruned (Call.prunes_iff.2 ⟨_, rfl, hanswer⟩)
  | some j =>
    obtain ⟨inner, d, htrail, hd, -, -, hinner⟩ := hr.trail_of_answer_eq_some hok hanswer
    rw [htrail]
    exact .closed (Visitor.opens_call hanswer) hd hinner

/-- A run that fails starts with an entry that it does not close. -/
theorem Tree.Runs.open_of_error {p : Path} {i : ι} {t : Tree} {s : σ} {r : Run ι σ}
    {e : WalkError} (hr : t.Runs w v p i s r) (he : r.result = .error e) :
    (v.call i (.enter t.handle) s).opens ∧ ∀ y ∈ r.trail, y.1 = p → y.2.isLeave = false := by
  cases hr with
  | pruned henter => cases he
  | refused henter =>
    refine ⟨Visitor.opens_call henter, fun y hy _ => ?_⟩
    obtain rfl := List.mem_singleton.1 hy
    rfl
  | left henter hbelow => cases he
  | broken henter hbelow =>
    refine ⟨Visitor.opens_call henter, fun y hy hyp => ?_⟩
    rcases List.mem_cons.1 hy with rfl | hy
    · rfl
    · -- what is below the node is not at its path
      exact absurd (hyp ▸ List.prefix_refl p) (hbelow.not_prefix_start y hy)

theorem mem_pending_iff {trail : List (Path × Call ι σ)} {p : Path} {c : Call ι σ} :
    (p, c) ∈ pending trail ↔
      (p, c) ∈ trail ∧ c.opens ∧ ∀ y ∈ trail, y.1 = p → y.2.isLeave = false := by
  rw [pending, List.mem_filter, Bool.and_eq_true, Bool.not_eq_true', List.any_eq_false]
  simp only [Bool.and_eq_true, beq_iff_eq, not_and, Bool.not_eq_true]

/-! ### From an entry on -/

namespace Walker

variable {i : ι} {h : Handle} {s : σ}

/-- The state that a block of calls hands on is the one in which the next call is made. -/
theorem state_eq_of_append {before block later : List (Path × Call ι σ)} {p : Path}
    {c : Call ι σ} {t : σ} (hsplit : w.trail v i h s = before ++ block ++ later)
    (hfirst : ∃ rest, block = (p, c) :: rest)
    (hblock : HandsOn w v c.before (block.map Prod.snd) t) :
    t = (later.head?.map (·.2.before)).getD (w.run v i h s).state := by
  have hall := (w.runs v i h s).handsOn
  rw [← trail, hsplit, List.append_assoc, List.map_append, List.map_append] at hall
  obtain ⟨t₁, -, hall⟩ := hall.split
  obtain ⟨t₂, hblock', hlater⟩ := hall.split
  -- both block and rest start in the state before the entry
  obtain ⟨rest, rfl⟩ := hfirst
  obtain rfl : t₁ = c.before := hblock'.start_eq
  obtain rfl := hblock.unique hblock'
  rw [hlater.start_eq, List.head?_map, Option.map_map]
  rfl

/-- From an entry that does not stay open, a walk makes a stretch of calls, which are those of the
walk of the node. -/
theorem exists_stretch_of_not_pending {p : Path} {c : Call ι σ} {n : Handle}
    (hc : (p, c) ∈ w.trail v i h s) (hn : c.event = .enter n)
    (hclosed : (p, c) ∉ pending (w.trail v i h s)) :
    ∃ before block later, w.trail v i h s = before ++ block ++ later ∧ Stretch p c block ∧
      block.map Prod.snd = w.calls v c.receiver n c.before ∧
      (w.walk v c.receiver n).run.run c.before =
        (.ok (), (later.head?.map (·.2.before)).getD (w.run v i h s).state) := by
  obtain ⟨n', part, -, hcall, hruns, before, later, htrail, hothers, hend⟩ :=
    hasPart_of_mem_trail hc (Call.isLeave_eq_false_iff.2 ⟨n, hn⟩)
  rw [hcall] at hn
  cases hn
  have hentry : v.call c.receiver (.enter (w.unfold n).handle) c.before = c := by
    rw [w.handle_unfold, ← hcall]
  have hfirst := hruns.exists_cons
  rw [hentry] at hfirst
  cases hresult : part.result with
  | ok =>
    have hstretch := hruns.stretch hresult
    rw [hentry] at hstretch
    have hstate := state_eq_of_append htrail hfirst hruns.handsOn
    refine ⟨before, part.trail, later, htrail, hstretch, (calls_eq_of_runs hruns).symm, ?_⟩
    rw [hruns.walk n rfl, hresult, hstate]
  | error e =>
    -- a part that fails ends the run, so that nothing is left to close the entry
    obtain ⟨hopens, hpart⟩ := hruns.open_of_error hresult
    rw [hentry] at hopens
    obtain hok | ⟨-, -, rfl⟩ := hend
    · cases hresult.symm.trans hok
    refine absurd (mem_pending_iff.2 ⟨hc, hopens, fun y hy hyp => ?_⟩) hclosed
    rw [trail, htrail, List.append_nil] at hy
    rcases List.mem_append.1 hy with hy | hy
    · exact absurd (hyp ▸ List.prefix_refl p) (hothers y (List.mem_append_left _ hy))
    · exact hpart y hy hyp

/-- From an entry that stays open to its end, a walk is the walk of the node, and fails with it. -/
theorem exists_suffix_of_pending {p : Path} {c : Call ι σ} {n : Handle}
    (hc : (p, c) ∈ pending (w.trail v i h s)) (hn : c.event = .enter n) :
    ∃ before rest, w.trail v i h s = before ++ (p, c) :: rest ∧
      ((p, c) :: rest).map Prod.snd = w.calls v c.receiver n c.before ∧
      (w.walk v c.receiver n).run.run c.before = (w.walk v i h).run.run s ∧
      ∃ e, ((w.walk v i h).run.run s).1 = .error e := by
  obtain ⟨hmem, hopens, hopen⟩ := mem_pending_iff.1 hc
  obtain ⟨n', part, -, hcall, hruns, before, later, htrail, -, hend⟩ :=
    hasPart_of_mem_trail hmem (Call.isLeave_eq_false_iff.2 ⟨n, hn⟩)
  rw [hcall] at hn
  cases hn
  have hentry : v.call c.receiver (.enter (w.unfold n).handle) c.before = c := by
    rw [w.handle_unfold, ← hcall]
  obtain ⟨rest, hrest⟩ := hruns.exists_cons
  rw [hentry] at hrest
  cases hresult : part.result with
  | ok =>
    -- a part that succeeds closes its entry
    rw [← hentry] at hopens
    obtain ⟨-, j, -, hanswer⟩ := Call.opens_iff.1 hopens
    obtain ⟨inner, d, hpart, hd, -, -, -⟩ := hruns.trail_of_answer_eq_some hresult hanswer
    have hleave : (p, d) ∈ w.trail v i h s := by
      rw [trail, htrail, hpart]
      simp
    rw [hopen (p, d) hleave rfl] at hd
    cases hd
  | error e =>
    have hfails : part.result ≠ .ok () := by simp [hresult]
    obtain ⟨hsame, hstate, rfl⟩ := hend.resolve_left hfails
    refine ⟨before, rest, ?_, ?_, ?_, e, ?_⟩
    · rw [trail, htrail, hrest, List.append_nil]
    · rw [← hrest, calls_eq_of_runs hruns]
    · rw [hruns.walk n rfl, run_walk, hsame, hstate]
    · rw [run_walk, ← hsame, hresult]

/-- **Walks are local.** The paths of the trail place the calls of a walk in the unfolding of its
root. From an entry that does not stay open, the walk makes a stretch of calls, down to the leaving
that closes the entry, or the entry alone if it is pruned. These are the calls of the walk of the
node, shown to the same visitor in the same state; that walk succeeds, and it ends in the state in
which the larger one goes on. From an entry that stays open, the larger walk is up to its end the
walk of the node: both fail with the same error, in the same state. A walk that succeeds leaves
nothing open. -/
theorem walk_local (w : Walker) (v : Visitor ι σ) (i : ι) (h : Handle) (s : σ) :
    w.Places h (w.calls v i h s) (w.trail v i h s) ∧
    (((w.walk v i h).run.run s).1 = .ok () → pending (w.trail v i h s) = []) ∧
    (∀ p c n, (p, c) ∈ w.trail v i h s → c.event = .enter n →
      (p, c) ∉ pending (w.trail v i h s) →
      ∃ before block later, w.trail v i h s = before ++ block ++ later ∧ Stretch p c block ∧
        block.map Prod.snd = w.calls v c.receiver n c.before ∧
        (w.walk v c.receiver n).run.run c.before =
          (.ok (), (later.head?.map (·.2.before)).getD ((w.walk v i h).run.run s).2)) ∧
    (∀ p c n, (p, c) ∈ pending (w.trail v i h s) → c.event = .enter n →
      ∃ before rest, w.trail v i h s = before ++ (p, c) :: rest ∧
        ((p, c) :: rest).map Prod.snd = w.calls v c.receiver n c.before ∧
        (w.walk v c.receiver n).run.run c.before = (w.walk v i h).run.run s ∧
        ∃ e, ((w.walk v i h).run.run s).1 = .error e) := by
  refine ⟨w.places_trail v i h s, fun hok => ?_, fun p c n hc hn hclosed => ?_,
    fun p c n hc hn => exists_suffix_of_pending hc hn⟩
  · rw [run_walk] at hok
    exact (w.runs v i h s).pending_eq_nil hok
  · obtain ⟨before, block, later, hsplit, hblock, hcalls, hwalk⟩ :=
      exists_stretch_of_not_pending hc hn hclosed
    rw [run_walk w v i h s]
    exact ⟨before, block, later, hsplit, hblock, hcalls, hwalk⟩

/-- The clause with a hint: where the kind of the hint is known, the hint is walked within the clause
as it is walked on its own, and otherwise the clause fails as the hint does. -/
theorem local_hinted :
    let v : Visitor Bool Nat := .relay none
    let n : Handle := ⟨.cell 1, .dialect, .hint .hinted⟩
    let c := v.call false (.enter n) 1
    (([0], c) ∈ hinting.trail v false .hinted 0 ∧
      ([0], c) ∉ pending (hinting.trail v false .hinted 0) ∧
      ∃ before block later, hinting.trail v false .hinted 0 = before ++ block ++ later ∧
        Stretch [0] c block ∧ block.map Prod.snd = hinting.calls v false n 1 ∧
        ((hinting.walk v false n).run.run 1).1 = .ok ()) ∧
    (([0], c) ∈ pending (({} : Walker).trail v false .hinted 0) ∧
      (({} : Walker).walk v false n).run.run 1 =
        (({} : Walker).walk v false .hinted).run.run 0) := by
  intro v n c
  have hentry : (hinting.trail v false .hinted 0)[1]? = some ([0], c) := by cbv
  have hopen : (pending (({} : Walker).trail v false .hinted 0))[1]? = some ([0], c) := by cbv
  have hok : ((hinting.walk v false .hinted).run.run 0).1 = .ok () := by cbv
  obtain ⟨-, hnone, hclosed, -⟩ := walk_local hinting v false .hinted 0
  obtain ⟨-, -, -, hpending⟩ := walk_local {} v false .hinted 0
  have hmem := List.mem_of_getElem? hentry
  have hmem' := List.mem_of_getElem? hopen
  have hleft : ([0], c) ∉ pending (hinting.trail v false .hinted 0) := by
    rw [hnone hok]
    exact List.not_mem_nil
  obtain ⟨before, block, later, hsplit, hblock, hcalls, hwalk⟩ := hclosed [0] c n hmem rfl hleft
  obtain ⟨-, -, -, -, hsame, -⟩ := hpending [0] c n hmem' rfl
  exact ⟨⟨hmem, hleft, before, block, later, hsplit, hblock, hcalls, congrArg Prod.fst hwalk⟩,
    hmem', hsame⟩

end Walker

end SqlTree
