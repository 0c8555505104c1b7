import SqlTree.Proofs.Walk.Children

/-!
# The reference recursion

A walk is written with an action that is handed the children one by one and re-enters the walk
from inside. The reference is written with lists: ask the visitor, list the children, walk them
from left to right until one of them fails, tell the visitor that the node is left.

* `Sink.feed` is the reference for handing out children: what a sink with a state of its own
  answers on a list, the calls that were made of it, and its last state.
* `Walker.round` is one round of the reference recursion, with the walk below as a parameter.
* `Walker.walk_eq_round` and `Walker.eq_walk_of_eq_round`: the walk is the one function that
  satisfies the recursion.

Main statement: `Walker.walk_refines_listing` puts the three together.
-/

set_option autoImplicit false

namespace SqlTree

/-! ### Running computations that may fail -/

section Running

variable {ε σ α β : Type} {x : ExceptT ε (StateM σ) α} {f : α → ExceptT ε (StateM σ) β} {s s' : σ}

/-- After a success the next computation goes on from the state that was reached. -/
theorem run_bind_ok {a : α} (hx : x.run.run s = (.ok a, s')) :
    (x >>= f).run.run s = (f a).run.run s' := by
  simp only [ExceptT.run_bind, StateT.run_bind, hx]
  rfl

/-- A failure is the end, and the state stays as it is. -/
theorem run_bind_error {e : ε} (hx : x.run.run s = (.error e, s')) :
    (x >>= f).run.run s = (.error e, s') := by
  simp only [ExceptT.run_bind, StateT.run_bind, hx]
  rfl

end Running

/-! ### Sinks with a state -/

/-- A sink for nodes: it may fail, and it has a state that it keeps also when it fails. -/
abbrev Sink (σ : Type) := Handle → σ → Except WalkError Unit × σ

namespace Sink

variable {σ : Type}

/-- The sink that also notes the nodes it is called on. -/
def noting (f : Sink σ) (c : Handle) : ExceptT WalkError (StateM (σ × List Handle)) Unit :=
  ExceptT.mk fun (s, noted) => ((f c s).1, (f c s).2, noted ++ [c])

/-- Calls a sink on the nodes of a list from left to right and stops at the first failure: the
result, the last state, and the nodes on which the sink was called. -/
def feed (f : Sink σ) : List Handle → σ → Except WalkError Unit × σ × List Handle
  | [], s => (.ok (), s, [])
  | c :: cs, s =>
    match f c s with
    | (.error e, s) => (.error e, s, [c])
    | (.ok (), s) =>
      let (result, s, called) := f.feed cs s
      (result, s, c :: called)

theorem run_noting (f : Sink σ) (c : Handle) (s : σ) (noted : List Handle) :
    (f.noting c).run.run (s, noted) = ((f c s).1, (f c s).2, noted ++ [c]) :=
  rfl

theorem run_forM_noting (f : Sink σ) (cs : List Handle) (s : σ) (noted : List Handle) :
    (cs.forM f.noting).run.run (s, noted) =
      ((f.feed cs s).1, (f.feed cs s).2.1, noted ++ (f.feed cs s).2.2) := by
  induction cs generalizing s noted with
  | nil =>
    rw [feed, List.append_nil]
    rfl
  | cons c cs ih =>
    have hcall := f.run_noting c s noted
    rw [List.forM_eq_forM, List.forM_cons, feed]
    rcases hf : f c s with ⟨e | ⟨⟩, s'⟩
    · -- the sink fails: the call is noted, and no other is made
      rw [hf] at hcall
      exact run_bind_error hcall
    · rw [hf] at hcall
      rw [run_bind_ok hcall, ← List.forM_eq_forM, ih, List.append_assoc]
      rfl

end Sink

namespace Walker

variable {ι σ : Type}

/-- Without a log to write to, announcing a node does nothing. -/
theorem run_silent (w : Walker) (h : Handle) (s : σ) :
    (ExceptT.lift (w.announce (fun _ => (pure () : StateM σ Unit)) h) :
      ExceptT WalkError (StateM σ) Unit).run.run s = (.ok (), s) := by
  rw [announce]
  cases w.report h <;> rfl

/-- One round of the reference recursion. The last argument but two walks what is below. -/
def round (w : Walker) (v : Visitor ι σ) (below : ι → Handle → ExceptT WalkError (StateM σ) Unit)
    (i : ι) (h : Handle) : ExceptT WalkError (StateM σ) Unit := do
  match ← v.visit i (.enter h) with
  | none => v.log (.pruned h.kind)
  | some j =>
    w.forEachListed v.log h (below j)
    discard (v.visit i .leave)

/-- The walk satisfies the reference recursion. -/
theorem walk_eq_round (w : Walker) (v : Visitor ι σ) (i : ι) (h : Handle) :
    w.walk v i h = w.round v (w.walk v) i h := by
  have hlisted : ∀ j, (w.forEachChild v.log h fun c _ => w.walk v j c) =
      w.forEachListed v.log h (w.walk v j) :=
    fun j => w.forEachChild_eq_forEachListed v.log h (w.walk v j)
  rw [walk, round]
  refine bind_congr fun answer => ?_
  cases answer with
  | none => rfl
  | some j => exact congrArg (· >>= _) (hlisted j)

private theorem forM_congr_mem {m : Type → Type} [Monad m] {cs : List Handle}
    {f g : Handle → m Unit} (hfg : ∀ c ∈ cs, f c = g c) : cs.forM f = cs.forM g := by
  induction cs with
  | nil => rfl
  | cons c cs ih =>
    have hrest := ih fun d hd => hfg d (List.mem_cons_of_mem c hd)
    rw [List.forM, List.forM, hfg c List.mem_cons_self, hrest]

/-- Two walks below that agree on the children of a node agree on the node. -/
theorem round_congr {w : Walker} {v : Visitor ι σ}
    {F G : ι → Handle → ExceptT WalkError (StateM σ) Unit} {h : Handle}
    (hFG : ∀ c : Handle, c.size < h.size → ∀ j, F j c = G j c) (i : ι) :
    w.round v F i h = w.round v G i h := by
  have hlisted : ∀ j, w.forEachListed v.log h (F j) = w.forEachListed v.log h (G j) := by
    intro j
    rw [forEachListed, forEachListed]
    cases hcs : w.children h with
    | error e => rfl
    | ok cs =>
      have hforM : cs.forM (F j) = cs.forM (G j) :=
        forM_congr_mem fun c hc => hFG c (size_lt_of_mem_children hcs hc) j
      simp only [hforM]
  simp only [round, hlisted]

/-- Nothing else satisfies it: children are smaller than their parents. -/
theorem eq_walk_of_eq_round {w : Walker} {v : Visitor ι σ}
    {F : ι → Handle → ExceptT WalkError (StateM σ) Unit}
    (hF : ∀ i h, F i h = w.round v F i h) (i : ι) (h : Handle) : F i h = w.walk v i h := by
  induction hn : h.size using Nat.strongRecOn generalizing i h with
  | ind n ih =>
    subst hn
    -- both sides are one round, and the walks below them are of smaller nodes
    rw [hF, walk_eq_round]
    exact round_congr (fun c hc j => ih c.size hc j c rfl) i

/-- **The walk refines the listing of children.** Handing the children of a node to an action is
listing them and performing the action from left to right; for a sink with a state this fixes
the result, the calls that are made and the last state, and nothing is called when there is no
list. Hence the walk is the one function that satisfies the reference recursion. -/
theorem walk_refines_listing (w : Walker) :
    (∀ {m : Type → Type} [Monad m] [LawfulMonad m] (log : LogEvent → m Unit) (h : Handle)
        (f : Handle → ExceptT WalkError m Unit),
      (w.forEachChild log h fun c _ => f c) = w.forEachListed log h f) ∧
    (∀ {σ : Type} (f : Sink σ) (h : Handle) (s : σ),
      (w.forEachChild (fun _ => pure ()) h fun c _ => f.noting c).run.run (s, []) =
        match w.children h with
        | .error e => (.error e, s, [])
        | .ok cs => f.feed cs s) ∧
    (∀ {ι σ : Type} (v : Visitor ι σ) (F : ι → Handle → ExceptT WalkError (StateM σ) Unit),
      F = w.walk v ↔ ∀ i h, F i h = w.round v F i h) := by
  refine ⟨fun log h f => w.forEachChild_eq_forEachListed log h f, fun {σ} f h s => ?_,
    fun v F => ⟨?_, fun hF => ?_⟩⟩
  · rw [forEachChild_eq_forEachListed, forEachListed, run_bind_ok (run_silent w h (s, []))]
    cases w.children h with
    | error e => rfl
    | ok cs => simpa using f.run_forM_noting cs s []
  · rintro rfl i h
    exact w.walk_eq_round v i h
  · funext i h
    exact eq_walk_of_eq_round hF i h

end Walker

end SqlTree
