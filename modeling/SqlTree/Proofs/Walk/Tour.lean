import SqlTree.Proofs.Walk.Trail

/-!
# Tours

A visitor *follows* a predicate if it keeps to itself and descends exactly where the predicate
holds, whatever its state is. What such a visitor is told is then a matter of the tree and the
predicate alone: the tour of the tree. A tour goes into a node, around everything below it, and
out again, except that it turns back at once where the predicate fails.

* `Visitor.Follows` says that a visitor follows a predicate.
* `Tree.tour` is the tour of an unfolding, with the path of its occurrence at every event.
* `Tree.passable` says that a tour wants to go below no node whose children are not known.
* `Tree.Runs.told_eq_tour` and `Tree.Runs.result_eq_ok_iff`: a run of a visitor that follows a
  predicate succeeds exactly if the tour is passable, and then it is told the tour.
-/

set_option autoImplicit false

namespace SqlTree

variable {ι σ : Type}

/-- Visitor `i` names no other visitor, and descends exactly where `r` holds. -/
def Visitor.Follows (v : Visitor ι σ) (i : ι) (r : Handle → Bool) : Prop :=
  ∀ n s, (v.call i (.enter n) s).answer = if r n then some i else none

/-- What the calls of a trail tell, each with the path of its occurrence. -/
def told (trail : List (Path × Call ι σ)) : List (Path × Event) :=
  trail.map fun x => (x.1, x.2.event)

theorem told_append (l l' : List (Path × Call ι σ)) : told (l ++ l') = told l ++ told l' := by
  rw [told, List.map_append]
  rfl

theorem mem_told {trail : List (Path × Call ι σ)} {a : Path} {e : Event} :
    (a, e) ∈ told trail ↔ ∃ c, (a, c) ∈ trail ∧ c.event = e := by
  rw [told, List.mem_map]
  constructor
  · rintro ⟨⟨b, c⟩, hc, heq⟩
    obtain ⟨rfl, rfl⟩ := Prod.mk.inj heq
    exact ⟨c, hc, rfl⟩
  · rintro ⟨c, hc, rfl⟩
    exact ⟨(a, c), hc, rfl⟩

/-! ### The tour of a tree -/

mutual

/-- The tour of the occurrence at a path. -/
def Tree.tour (r : Handle → Bool) (p : Path) : Tree → List (Path × Event)
  | .node h below =>
    (p, .enter h) :: if r h then below.tour r p 0 ++ [(p, .leave)] else []
  | .stuck h _ => [(p, .enter h)]

/-- The tours of the children of the occurrence at a path, from the given index on. -/
def Forest.tour (r : Handle → Bool) (p : Path) (k : Nat) : Forest → List (Path × Event)
  | .nil => []
  | .cons t f => t.tour r (p ++ [k]) ++ f.tour r p (k + 1)

end

mutual

/-- Wherever the tour goes below a node, the children of the node are known. -/
def Tree.passable (r : Handle → Bool) : Tree → Bool
  | .node h below => !r h || below.passable r
  | .stuck h _ => !r h

/-- The tours of all trees are passable. -/
def Forest.passable (r : Handle → Bool) : Forest → Bool
  | .nil => true
  | .cons t f => t.passable r && f.passable r

end

theorem Tree.tour_of_false {r : Handle → Bool} {t : Tree} (ht : r t.handle = false) (p : Path) :
    t.tour r p = [(p, .enter t.handle)] := by
  cases t with
  | node h below =>
    have hh : r h = false := ht
    simp [Tree.tour, Tree.handle, hh]
  | stuck h e => rw [Tree.tour, Tree.handle]

theorem Tree.tour_node_of_true {r : Handle → Bool} {h : Handle} (hh : r h = true)
    (below : Forest) (p : Path) :
    (Tree.node h below).tour r p = (p, .enter h) :: (below.tour r p 0 ++ [(p, .leave)]) := by
  rw [Tree.tour, if_pos hh]

theorem Tree.passable_of_false {r : Handle → Bool} {t : Tree} (ht : r t.handle = false) :
    t.passable r = true := by
  cases t with
  | node h below =>
    have hh : r h = false := ht
    simp [Tree.passable, hh]
  | stuck h e =>
    have hh : r h = false := ht
    simp [Tree.passable, hh]

mutual

/-- A tour stays at and below the occurrence where it starts. -/
theorem Tree.prefix_of_mem_tour (r : Handle → Bool) (p : Path) :
    (t : Tree) → ∀ x ∈ t.tour r p, p <+: x.1
  | .node h below => by
    intro x hx
    by_cases hh : r h = true
    · rw [Tree.tour_node_of_true hh, List.mem_cons, List.mem_append, List.mem_singleton] at hx
      rcases hx with rfl | hx | rfl
      · exact List.prefix_refl p
      · obtain ⟨m, -, hm⟩ := below.prefix_of_mem_tour r p 0 x hx
        exact (List.prefix_append p [m]).trans hm
      · exact List.prefix_refl p
    · rw [Tree.tour, if_neg hh] at hx
      obtain rfl := List.mem_singleton.1 hx
      exact List.prefix_refl p
  | .stuck h e => by
    intro x hx
    rw [Tree.tour] at hx
    obtain rfl := List.mem_singleton.1 hx
    exact List.prefix_refl p

theorem Forest.prefix_of_mem_tour (r : Handle → Bool) (p : Path) (k : Nat) :
    (f : Forest) → ∀ x ∈ f.tour r p k, ∃ m, k ≤ m ∧ p ++ [m] <+: x.1
  | .nil => by
    intro x hx
    simp [Forest.tour] at hx
  | .cons t f => by
    intro x hx
    rw [Forest.tour] at hx
    rcases List.mem_append.1 hx with hx | hx
    · exact ⟨k, Nat.le_refl k, t.prefix_of_mem_tour r (p ++ [k]) x hx⟩
    · obtain ⟨m, hkm, hm⟩ := f.prefix_of_mem_tour r p (k + 1) x hx
      exact ⟨m, Nat.le_of_succ_le hkm, hm⟩

end

/-! ### Runs of a visitor that follows a predicate -/

namespace Visitor.Follows

variable {v : Visitor ι σ} {i j : ι} {r : Handle → Bool} {n : Handle} {s : σ}

theorem of_answer_eq_none (hv : v.Follows i r) (hanswer : (v.call i (.enter n) s).answer = none) :
    r n = false := by
  rw [hv n s] at hanswer
  cases hn : r n with
  | false => rfl
  | true =>
    rw [if_pos hn] at hanswer
    cases hanswer

theorem of_answer_eq_some (hv : v.Follows i r)
    (hanswer : (v.call i (.enter n) s).answer = some j) : r n = true ∧ j = i := by
  rw [hv n s] at hanswer
  by_cases hn : r n = true
  · rw [if_pos hn] at hanswer
    exact ⟨hn, (Option.some.inj hanswer).symm⟩
  · rw [if_neg hn] at hanswer
    cases hanswer

end Visitor.Follows

/-- A predicate without a state is followed by its inspector. -/
theorem Visitor.follows_inspector (r : Handle → Bool)
    (log : LogEvent → StateM σ Unit := fun _ => pure ()) :
    (Visitor.inspector (fun n => pure (r n)) log).Follows () r :=
  fun _ _ => rfl

section Runs

variable {w : Walker} {v : Visitor ι σ} {r : Handle → Bool}

mutual

/-- **A run that succeeds is told the tour**, if the visitor follows the predicate. -/
theorem Tree.Runs.told_eq_tour {p : Path} {i : ι} {t : Tree} {s : σ} {run : Run ι σ}
    (hr : t.Runs w v p i s run) (hv : v.Follows i r) (hok : run.result = .ok ()) :
    told run.trail = t.tour r p := by
  cases hr with
  | pruned henter =>
    rw [Tree.tour_of_false (hv.of_answer_eq_none henter)]
    rfl
  | refused henter => cases hok
  | left henter hbelow =>
    obtain ⟨hh, rfl⟩ := hv.of_answer_eq_some henter
    rw [Tree.tour_node_of_true hh, ← hbelow.told_eq_tour hv rfl]
    simp [told, Visitor.call]
  | broken henter hbelow => cases hok

theorem Forest.Runs.told_eq_tour {p : Path} {k : Nat} {i : ι} {f : Forest} {s : σ}
    {run : Run ι σ} (hr : f.Runs w v p k i s run) (hv : v.Follows i r)
    (hok : run.result = .ok ()) : told run.trail = f.tour r p k := by
  cases hr with
  | nil => rfl
  | cons hfirst hrest =>
    have hfirst' := hfirst.told_eq_tour hv rfl
    have hrest' := hrest.told_eq_tour hv hok
    rw [told_append, hrest', Forest.tour, ← hfirst']
  | stop hfirst => cases hok

end

mutual

/-- A run succeeds exactly if the tour of its tree is passable. -/
theorem Tree.Runs.result_eq_ok_iff {p : Path} {i : ι} {t : Tree} {s : σ} {run : Run ι σ}
    (hr : t.Runs w v p i s run) (hv : v.Follows i r) :
    run.result = .ok () ↔ t.passable r = true := by
  cases hr with
  | pruned henter =>
    exact iff_of_true rfl (Tree.passable_of_false (hv.of_answer_eq_none henter))
  | refused henter =>
    obtain ⟨hh, -⟩ := hv.of_answer_eq_some henter
    exact iff_of_false nofun (by simp [Tree.passable, hh])
  | left henter hbelow =>
    obtain ⟨hh, rfl⟩ := hv.of_answer_eq_some henter
    have hpass := (hbelow.result_eq_ok_iff hv).1 rfl
    exact iff_of_true rfl (by simp [Tree.passable, hpass])
  | broken henter hbelow =>
    obtain ⟨hh, rfl⟩ := hv.of_answer_eq_some henter
    have hpass := mt (hbelow.result_eq_ok_iff hv).2 (by simp)
    exact iff_of_false nofun (by simpa [Tree.passable, hh] using hpass)

theorem Forest.Runs.result_eq_ok_iff {p : Path} {k : Nat} {i : ι} {f : Forest} {s : σ}
    {run : Run ι σ} (hr : f.Runs w v p k i s run) (hv : v.Follows i r) :
    run.result = .ok () ↔ f.passable r = true := by
  cases hr with
  | nil => exact iff_of_true rfl rfl
  | cons hfirst hrest =>
    have hpass := (hfirst.result_eq_ok_iff hv).1 rfl
    rw [Forest.passable, hpass, Bool.true_and]
    exact hrest.result_eq_ok_iff hv
  | stop hfirst =>
    have hpass := mt (hfirst.result_eq_ok_iff hv).2 (by simp)
    exact iff_of_false nofun (by simp [Forest.passable, hpass])

end

mutual

/-- All calls are made of the one visitor. -/
theorem Tree.Runs.receiver_eq {p : Path} {i : ι} {t : Tree} {s : σ} {run : Run ι σ}
    (hr : t.Runs w v p i s run) (hv : v.Follows i r) : ∀ x ∈ run.trail, x.2.receiver = i := by
  intro x hx
  cases hr with
  | pruned henter =>
    obtain rfl := List.mem_singleton.1 hx
    rfl
  | refused henter =>
    obtain rfl := List.mem_singleton.1 hx
    rfl
  | left henter hbelow =>
    obtain ⟨-, rfl⟩ := hv.of_answer_eq_some henter
    rcases mem_enclosed.1 hx with rfl | hx | rfl
    · rfl
    · exact hbelow.receiver_eq hv x hx
    · rfl
  | broken henter hbelow =>
    obtain ⟨-, rfl⟩ := hv.of_answer_eq_some henter
    rcases List.mem_cons.1 hx with rfl | hx
    · rfl
    · exact hbelow.receiver_eq hv x hx

theorem Forest.Runs.receiver_eq {p : Path} {k : Nat} {i : ι} {f : Forest} {s : σ}
    {run : Run ι σ} (hr : f.Runs w v p k i s run) (hv : v.Follows i r) :
    ∀ x ∈ run.trail, x.2.receiver = i := by
  intro x hx
  cases hr with
  | nil => simp at hx
  | cons hfirst hrest =>
    rcases List.mem_append.1 hx with hx | hx
    · exact hfirst.receiver_eq hv x hx
    · exact hrest.receiver_eq hv x hx
  | stop hfirst => exact hfirst.receiver_eq hv x hx

end

end Runs

namespace Walker

variable {w : Walker} {v : Visitor ι σ} {i : ι} {r : Handle → Bool} {h : Handle} {s : σ}

/-- A walk succeeds exactly if the tour of the unfolding is passable. -/
theorem walk_eq_ok_iff_passable (hv : v.Follows i r) :
    ((w.walk v i h).run.run s).1 = .ok () ↔ (w.unfold h).passable r = true := by
  rw [run_walk]
  exact (w.runs v i h s).result_eq_ok_iff hv

/-- A walk that succeeds is told the tour of the unfolding. -/
theorem told_trail (hv : v.Follows i r) (hok : ((w.walk v i h).run.run s).1 = .ok ()) :
    told (w.trail v i h s) = (w.unfold h).tour r [] := by
  rw [run_walk] at hok
  exact (w.runs v i h s).told_eq_tour hv hok

/-- An entry is answered by the predicate. -/
theorem answer_of_mem_trail (hv : v.Follows i r) {p : Path} {c : Call ι σ} {n : Handle}
    (hc : (p, c) ∈ w.trail v i h s) (hn : c.event = .enter n) :
    c.answer = if r n then some i else none := by
  have hcall : c = v.call c.receiver c.event c.before :=
    (w.runs v i h s).eq_call_of_mem (p, c) hc
  have hreceiver : c.receiver = i := (w.runs v i h s).receiver_eq hv (p, c) hc
  rw [hcall, hreceiver, hn]
  exact hv n c.before

end Walker

end SqlTree
