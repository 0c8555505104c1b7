import SqlTree.Proofs.Walk.Run

/-!
# Surveys list the unfolding

A survey is an inspection that is never answered with false. Unless it fails, it enters every
occurrence of the unfolding, a node before what is below it, and siblings from left to right.

* `Tree.handles` lists the nodes of an unfolding in this order.
* `Tree.Runs.state_of_survey`: a run that succeeds notes the nodes of the tree that it is about.

Main statement: `Walker.survey_eq_handles`.
-/

set_option autoImplicit false

namespace SqlTree

/-! ### The nodes of an unfolding in order -/

mutual

/-- The nodes of an unfolding, each before those below it. -/
def Tree.handles : Tree → List Handle
  | .node h below => h :: below.handles
  | .stuck h _ => [h]

/-- The nodes of the unfoldings of siblings, from left to right. -/
def Forest.handles : Forest → List Handle
  | .nil => []
  | .cons t f => t.handles ++ f.handles

end

theorem Forest.handles_ofList (ts : List Tree) : (ofList ts).handles = ts.flatMap Tree.handles := by
  induction ts with
  | nil => rfl
  | cons t ts ih => rw [ofList, handles, ih, List.flatMap_cons]

/-! ### The run of a survey -/

/-- The visitor of a survey: it notes what it is shown, and wants to see more. -/
def Visitor.surveyor : Visitor Unit (Array Handle) :=
  .inspector fun c => do
    modify (·.push c)
    return true

theorem Visitor.after_call_surveyor (i : Unit) (n : Handle) (s : Array Handle) :
    (surveyor.call i (.enter n) s).after = s.push n :=
  rfl

theorem Walker.announced_surveyor (w : Walker) (h : Handle) (s : Array Handle) :
    w.announced .surveyor h s = s :=
  w.announced_of_logged_eq (fun _ _ => rfl) h s

mutual

theorem Tree.Runs.state_of_survey {w : Walker} {p : Path} {i : Unit} {t : Tree}
    {s : Array Handle} {r : Run Unit (Array Handle)} (hr : t.Runs w .surveyor p i s r)
    (hok : r.result = .ok ()) : r.state.toList = s.toList ++ t.handles := by
  cases hr with
  | pruned henter => cases henter
  | refused henter => cases hok
  | left henter hbelow =>
    -- below the node the notes start with the node itself, and leaving it adds nothing
    have hstate := hbelow.state_of_survey rfl
    rw [w.announced_surveyor, Visitor.after_call_surveyor, Array.toList_push, List.append_assoc,
      List.singleton_append] at hstate
    exact hstate
  | broken henter hbelow => cases hok

theorem Forest.Runs.state_of_survey {w : Walker} {p : Path} {k : Nat} {j : Unit} {f : Forest}
    {s : Array Handle} {r : Run Unit (Array Handle)} (hr : f.Runs w .surveyor p k j s r)
    (hok : r.result = .ok ()) : r.state.toList = s.toList ++ f.handles := by
  cases hr with
  | nil => exact (List.append_nil _).symm
  | cons hfirst hrest =>
    rw [Forest.handles, ← List.append_assoc, ← hfirst.state_of_survey rfl]
    exact hrest.state_of_survey hok
  | stop hfirst => cases hok

end

/-- **A survey lists the unfolding.** If it does not fail, it enters the nodes of the unfolding in
order. -/
theorem Walker.survey_eq_handles {w : Walker} {h : Handle} (hok : (w.survey h).1 = .ok ()) :
    (w.survey h).2 = (w.unfold h).handles := by
  have hsurvey : w.survey h = (((w.walk .surveyor () h).run.run #[]).1,
      ((w.walk .surveyor () h).run.run #[]).2.toList) := rfl
  rw [hsurvey, w.run_walk] at hok ⊢
  exact (w.runs .surveyor () h #[]).state_of_survey hok

end SqlTree
