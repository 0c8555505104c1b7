import SqlTree.Proofs.Walk.Run

/-!
# Visitors with more state

A visitor may keep more than another one and otherwise do the same: it may write a journal, count
its calls or note what it is asked. Forgetting the surplus is then a map of states that carries
the one to the other, and a walk cannot tell them apart.

* `Visitor.Carries` says that a map of states carries visitors to visitors.
* `Tree.Runs.transport`: the map takes a run of the former to a run of the latter, call by call.
* `Visitor.journaled` keeps the entries of the log, and `Walker.journal` reads what a walk has
  reported.
-/

set_option autoImplicit false

namespace SqlTree

variable {ι σ τ : Type}

/-- The map `f` of states carries the visitors `v` to the visitors `v'`: these give the same
answers, and end in the image of the state in which those end. -/
structure Visitor.Carries (f : σ → τ) (v : Visitor ι σ) (v' : Visitor ι τ) : Prop where
  answer_eq : ∀ i e s, (v'.call i e (f s)).answer = (v.call i e s).answer
  after_eq : ∀ i e s, (v'.call i e (f s)).after = f (v.call i e s).after
  logged_eq : ∀ entry s, v'.logged entry (f s) = f (v.logged entry s)

/-- A call with other states. -/
def Call.map (f : σ → τ) (c : Call ι σ) : Call ι τ where
  receiver := c.receiver
  event := c.event
  answer := c.answer
  before := f c.before
  after := f c.after

/-- A run with other states. -/
def Run.map (f : σ → τ) (r : Run ι σ) : Run ι τ where
  trail := r.trail.map fun x => (x.1, x.2.map f)
  result := r.result
  state := f r.state

namespace Visitor.Carries

variable {w : Walker} {f : σ → τ} {v : Visitor ι σ} {v' : Visitor ι τ}

theorem call_eq (hf : Carries f v v') (i : ι) (e : Event) (s : σ) :
    v'.call i e (f s) = (v.call i e s).map f := by
  have hanswer := hf.answer_eq i e s
  have hafter := hf.after_eq i e s
  rw [Visitor.call] at hanswer hafter ⊢
  rw [Call.map, ← hanswer, ← hafter]
  rfl

theorem announced_eq (hf : Carries f v v') (h : Handle) (s : σ) :
    w.announced v' h (f s) = f (w.announced v h s) := by
  rw [Walker.announced, Walker.announced, Walker.announce, Walker.announce]
  cases w.report h with
  | none => rfl
  | some entry => exact hf.logged_eq entry s

end Visitor.Carries

section Transport

variable {w : Walker} {f : σ → τ} {v : Visitor ι σ} {v' : Visitor ι τ}

mutual

/-- **Runs are carried along.** -/
theorem Tree.Runs.transport (hf : Visitor.Carries f v v') {p : Path} {i : ι} {t : Tree} {s : σ}
    {r : Run ι σ} (hr : t.Runs w v p i s r) : t.Runs w v' p i (f s) (r.map f) := by
  cases hr with
  | pruned henter =>
    have hrun := Tree.Runs.pruned (w := w) (p := p) ((hf.answer_eq _ _ _).trans henter)
    rwa [hf.after_eq, hf.logged_eq, hf.call_eq] at hrun
  | @refused p i j h e s henter =>
    have hrun := Tree.Runs.refused (w := w) (p := p) (e := e) ((hf.answer_eq _ _ _).trans henter)
    rwa [hf.after_eq, hf.announced_eq, hf.call_eq] at hrun
  | left henter hbelow =>
    have hbelow' := hbelow.transport hf
    rw [← hf.announced_eq, ← hf.after_eq] at hbelow'
    have hrun := Tree.Runs.left ((hf.answer_eq _ _ _).trans henter) hbelow'
    rw [hf.after_eq, hf.call_eq, hf.call_eq] at hrun
    rw [Run.map, List.map_cons, List.map_append]
    exact hrun
  | broken henter hbelow =>
    have hbelow' := hbelow.transport hf
    rw [← hf.announced_eq, ← hf.after_eq] at hbelow'
    have hrun := Tree.Runs.broken ((hf.answer_eq _ _ _).trans henter) hbelow'
    rwa [hf.call_eq] at hrun

theorem Forest.Runs.transport (hf : Visitor.Carries f v v') {p : Path} {k : Nat} {j : ι}
    {below : Forest} {s : σ} {r : Run ι σ} (hr : below.Runs w v p k j s r) :
    below.Runs w v' p k j (f s) (r.map f) := by
  cases hr with
  | nil => exact .nil
  | cons hfirst hrest =>
    have hrun := Forest.Runs.cons (hfirst.transport hf) (hrest.transport hf)
    rw [Run.map, List.map_append]
    exact hrun
  | stop hfirst => exact .stop (hfirst.transport hf)

end

/-- The walks have the same result, and the last state is carried along. -/
theorem Visitor.Carries.run_walk (hf : Visitor.Carries f v v') (i : ι) (h : Handle) (s : σ) :
    (w.walk v' i h).run.run (f s) =
      (((w.walk v i h).run.run s).1, f ((w.walk v i h).run.run s).2) := by
  rw [((w.runs v i h s).transport hf).walk h rfl, w.run_walk]
  rfl

end Transport

/-! ### The journal of a walk -/

/-- The visitors together with a journal of what is reported. -/
def Visitor.journaled (v : Visitor ι σ) : Visitor ι (σ × List LogEvent) where
  visit i e := fun (s, journal) => ((v.call i e s).answer, (v.call i e s).after, journal)
  log entry := fun (s, journal) => ((), v.logged entry s, journal ++ [entry])

/-- What a walk reports, in order. -/
def Walker.journal (w : Walker) (v : Visitor ι σ) (i : ι) (h : Handle) (s : σ) : List LogEvent :=
  ((w.walk v.journaled i h).run.run (s, [])).2.2

/-- Without its journal a visitor is as before. -/
theorem Visitor.carries_journaled (v : Visitor ι σ) : Carries Prod.fst v.journaled v where
  answer_eq _ _ _ := rfl
  after_eq _ _ _ := rfl
  logged_eq _ _ := rfl

end SqlTree
