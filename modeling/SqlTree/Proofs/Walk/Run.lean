import SqlTree.Proofs.Walk.Reference
import SqlTree.Proofs.Walk.Unfolding

/-!
# Runs of a walk

What can be seen of a walk are the calls of its visitors: who was told what, what the answer
was, and the state of the visitors before and after. `Visitor.recorded` writes the calls down
while the walk itself runs, and `Walker.calls` reads them.

A call does not say at which occurrence of a node it was made. The trail of a run adds that: it
is the sequence of calls, each with the path of its occurrence, computed along the unfolding of
the root.

* `Tree.Runs` are the rules of a run, one for each way in which the visit of an occurrence can
  go. All that is proved of walks is proved by induction over these rules.
* `Tree.run` computes a run, and `Tree.runs` says that it follows the rules.
* `Tree.Runs.walk` and `Walker.map_snd_trail` tie both to the walk: the run over the unfolding
  of a node has the result, the last state and the calls of the walk.
* `Walker.run_walk_recorded`: recording does not disturb a walk.
-/

set_option autoImplicit false

namespace SqlTree

variable {ι σ : Type}

/-! ### Calls -/

/-- A call of a visitor. -/
structure Call (ι σ : Type) where
  /-- The visitor that is called. -/
  receiver : ι
  /-- What it is told. -/
  event : Event
  /-- What it answers. -/
  answer : Option ι
  /-- The state of the visitors before the call. -/
  before : σ
  /-- The state of the visitors after the call. -/
  after : σ

namespace Call

/-- Whether the call tells that a node is left. -/
def isLeave (c : Call ι σ) : Bool :=
  c.event.isLeave

/-- Whether the call tells that a node is entered, and the answer is to descend. -/
def opens (c : Call ι σ) : Bool :=
  !c.event.isLeave && c.answer.isSome

/-- Whether the call tells that a node is entered, and the answer is to prune it. -/
def prunes (c : Call ι σ) : Bool :=
  !c.event.isLeave && c.answer.isNone

variable {c : Call ι σ}

theorem isLeave_iff : c.isLeave ↔ c.event = .leave := by
  rw [isLeave]
  cases c.event <;> simp [Event.isLeave]

theorem isLeave_eq_false_iff : c.isLeave = false ↔ ∃ n, c.event = .enter n := by
  rw [isLeave]
  cases c.event <;> simp [Event.isLeave]

theorem opens_iff : c.opens ↔ ∃ n j, c.event = .enter n ∧ c.answer = some j := by
  rw [opens]
  cases c.event <;> simp [Event.isLeave, Option.isSome_iff_exists]

theorem prunes_iff : c.prunes ↔ ∃ n, c.event = .enter n ∧ c.answer = none := by
  rw [prunes]
  cases c.event <;> simp [Event.isLeave]

theorem prunes_eq_false_of_opens (hc : c.opens) : c.prunes = false := by
  obtain ⟨n, j, hevent, hanswer⟩ := opens_iff.1 hc
  simp [prunes, hanswer]

theorem prunes_eq_false_of_isLeave (hc : c.isLeave) : c.prunes = false := by
  simp [prunes, isLeave_iff.1 hc, Event.isLeave]

end Call

namespace Visitor

/-- The call of a visitor in a given state. -/
def call (v : Visitor ι σ) (i : ι) (e : Event) (s : σ) : Call ι σ where
  receiver := i
  event := e
  answer := ((v.visit i e).run s).1
  before := s
  after := ((v.visit i e).run s).2

/-- The visitors together with a record of the calls that are made of them. -/
def recorded (v : Visitor ι σ) : Visitor ι (σ × List (Call ι σ)) where
  visit i e := fun (s, calls) =>
    let c := v.call i e s
    (c.answer, c.after, calls ++ [c])
  log entry := fun (s, calls) => ((), ((v.log entry).run s).2, calls)

/-- The state after an entry of the log. -/
def logged (v : Visitor ι σ) (entry : LogEvent) (s : σ) : σ :=
  ((v.log entry).run s).2

end Visitor

/-- The state after a node has been announced. -/
def Walker.announced (w : Walker) (v : Visitor ι σ) (h : Handle) (s : σ) : σ :=
  ((w.announce v.log h).run s).2

/-- For visitors that take no notice of the log, announcing a node changes nothing. -/
theorem Walker.announced_of_logged_eq (w : Walker) {v : Visitor ι σ}
    (hlog : ∀ entry t, v.logged entry t = t) (h : Handle) (s : σ) : w.announced v h s = s := by
  rw [announced, announce]
  cases w.report h with
  | none => rfl
  | some entry => exact hlog entry s

/-! ### Runs over an unfolding -/

/-- A run: its trail, how it ends, and the last state of the visitors. -/
structure Run (ι σ : Type) where
  /-- The calls, each with the path of the occurrence it is about. -/
  trail : List (Path × Call ι σ)
  result : Except WalkError Unit
  state : σ

mutual

/-- The rules of a run that shows the occurrence at a path to a visitor. -/
inductive Tree.Runs (w : Walker) (v : Visitor ι σ) : Path → ι → Tree → σ → Run ι σ → Prop
  /-- The visitor prunes the node. -/
  | pruned {p : Path} {i : ι} {t : Tree} {s : σ}
      (henter : (v.call i (.enter t.handle) s).answer = none) :
      Tree.Runs w v p i t s
        ⟨[(p, v.call i (.enter t.handle) s)], .ok (),
          v.logged (.pruned t.handle.kind) (v.call i (.enter t.handle) s).after⟩
  /-- The visitor wants to descend, but the children are not known. -/
  | refused {p : Path} {i j : ι} {h : Handle} {e : WalkError} {s : σ}
      (henter : (v.call i (.enter h) s).answer = some j) :
      Tree.Runs w v p i (.stuck h e) s
        ⟨[(p, v.call i (.enter h) s)], .error e, w.announced v h (v.call i (.enter h) s).after⟩
  /-- All children are walked, and the visitor is told that the node is left. -/
  | left {p : Path} {i j : ι} {h : Handle} {below : Forest} {s s' : σ}
      {trail : List (Path × Call ι σ)}
      (henter : (v.call i (.enter h) s).answer = some j)
      (hbelow : Forest.Runs w v p 0 j below (w.announced v h (v.call i (.enter h) s).after)
        ⟨trail, .ok (), s'⟩) :
      Tree.Runs w v p i (.node h below) s
        ⟨(p, v.call i (.enter h) s) :: (trail ++ [(p, v.call i .leave s')]), .ok (),
          (v.call i .leave s').after⟩
  /-- The walk fails below the node. -/
  | broken {p : Path} {i j : ι} {h : Handle} {below : Forest} {s s' : σ}
      {trail : List (Path × Call ι σ)} {e : WalkError}
      (henter : (v.call i (.enter h) s).answer = some j)
      (hbelow : Forest.Runs w v p 0 j below (w.announced v h (v.call i (.enter h) s).after)
        ⟨trail, .error e, s'⟩) :
      Tree.Runs w v p i (.node h below) s ⟨(p, v.call i (.enter h) s) :: trail, .error e, s'⟩

/-- The rules of a run that shows the children of the occurrence at a path to a visitor, from
the given index on. -/
inductive Forest.Runs (w : Walker) (v : Visitor ι σ) :
    Path → Nat → ι → Forest → σ → Run ι σ → Prop
  | nil {p : Path} {k : Nat} {j : ι} {s : σ} : Forest.Runs w v p k j .nil s ⟨[], .ok (), s⟩
  /-- The first child is walked, and then the others. -/
  | cons {p : Path} {k : Nat} {j : ι} {t : Tree} {f : Forest} {s s' : σ}
      {trail : List (Path × Call ι σ)} {r : Run ι σ}
      (hfirst : Tree.Runs w v (p ++ [k]) j t s ⟨trail, .ok (), s'⟩)
      (hrest : Forest.Runs w v p (k + 1) j f s' r) :
      Forest.Runs w v p k j (.cons t f) s ⟨trail ++ r.trail, r.result, r.state⟩
  /-- The walk of the first child fails. -/
  | stop {p : Path} {k : Nat} {j : ι} {t : Tree} {f : Forest} {s s' : σ}
      {trail : List (Path × Call ι σ)} {e : WalkError}
      (hfirst : Tree.Runs w v (p ++ [k]) j t s ⟨trail, .error e, s'⟩) :
      Forest.Runs w v p k j (.cons t f) s ⟨trail, .error e, s'⟩

end

mutual

/-- The run that shows the occurrence at a path to a visitor. -/
def Tree.run (w : Walker) (v : Visitor ι σ) (p : Path) (i : ι) : Tree → σ → Run ι σ
  | .node h below, s =>
    let c := v.call i (.enter h) s
    match c.answer with
    | none => ⟨[(p, c)], .ok (), v.logged (.pruned h.kind) c.after⟩
    | some j =>
      match below.run w v p 0 j (w.announced v h c.after) with
      | ⟨trail, .ok (), s⟩ =>
        let d := v.call i .leave s
        ⟨(p, c) :: (trail ++ [(p, d)]), .ok (), d.after⟩
      | ⟨trail, .error e, s⟩ => ⟨(p, c) :: trail, .error e, s⟩
  | .stuck h e, s =>
    let c := v.call i (.enter h) s
    match c.answer with
    | none => ⟨[(p, c)], .ok (), v.logged (.pruned h.kind) c.after⟩
    | some _ => ⟨[(p, c)], .error e, w.announced v h c.after⟩

/-- The run that shows the children of the occurrence at a path to a visitor, from the given
index on. -/
def Forest.run (w : Walker) (v : Visitor ι σ) (p : Path) (k : Nat) (j : ι) :
    Forest → σ → Run ι σ
  | .nil, s => ⟨[], .ok (), s⟩
  | .cons t f, s =>
    match t.run w v (p ++ [k]) j s with
    | ⟨trail, .ok (), s⟩ =>
      let r := f.run w v p (k + 1) j s
      ⟨trail ++ r.trail, r.result, r.state⟩
    | ⟨trail, .error e, s⟩ => ⟨trail, .error e, s⟩

end

mutual

/-- The run of a tree follows the rules. -/
theorem Tree.runs (w : Walker) (v : Visitor ι σ) (p : Path) (i : ι) : (t : Tree) → (s : σ) →
    t.Runs w v p i s (t.run w v p i s)
  | .node h below, s => by
    rw [Tree.run]
    cases henter : (v.call i (.enter h) s).answer with
    | none => exact .pruned henter
    | some j =>
      have hbelow := below.runs w v p 0 j (w.announced v h (v.call i (.enter h) s).after)
      rcases hrun : below.run w v p 0 j (w.announced v h (v.call i (.enter h) s).after) with
        ⟨trail, e | ⟨⟩, s'⟩
      · simp only [hrun] at hbelow ⊢
        exact .broken henter hbelow
      · simp only [hrun] at hbelow ⊢
        exact .left henter hbelow
  | .stuck h e, s => by
    rw [Tree.run]
    cases henter : (v.call i (.enter h) s).answer with
    | none => exact .pruned henter
    | some j => exact .refused henter

theorem Forest.runs (w : Walker) (v : Visitor ι σ) (p : Path) (k : Nat) (j : ι) :
    (f : Forest) → (s : σ) → f.Runs w v p k j s (f.run w v p k j s)
  | .nil, s => by
    rw [Forest.run]
    exact .nil
  | .cons t f, s => by
    rw [Forest.run]
    have hfirst := t.runs w v (p ++ [k]) j s
    rcases hrun : t.run w v (p ++ [k]) j s with ⟨trail, e | ⟨⟩, s'⟩
    · rw [hrun] at hfirst
      exact .stop hfirst
    · rw [hrun] at hfirst
      exact .cons hfirst (f.runs w v p (k + 1) j s')

end

/-! ### Runs and walks -/

namespace Walker

variable (w : Walker) (v : Visitor ι σ)

/-- Telling a visitor something, as a part of a walk. -/
theorem run_visit (i : ι) (e : Event) (s : σ) :
    (liftM (v.visit i e) : ExceptT WalkError (StateM σ) (Option ι)).run.run s =
      (.ok (v.call i e s).answer, (v.call i e s).after) :=
  rfl

/-- A node that the visitor prunes. -/
theorem run_walk_pruned {i : ι} {h : Handle} {s : σ}
    (henter : (v.call i (.enter h) s).answer = none) :
    (w.walk v i h).run.run s =
      (.ok (), v.logged (.pruned h.kind) (v.call i (.enter h) s).after) := by
  have hvisit := run_visit v i (.enter h) s
  rw [henter] at hvisit
  rw [walk_eq_round, round, run_bind_ok hvisit]
  rfl

/-- A node that the visitor wants to descend into: first the children, then the leaving. -/
theorem run_walk_some {i j : ι} {h : Handle} {s : σ}
    (henter : (v.call i (.enter h) s).answer = some j) :
    (w.walk v i h).run.run s =
      (w.forEachListed v.log h (w.walk v j) >>= fun _ => discard (liftM (v.visit i .leave)) :
        ExceptT WalkError (StateM σ) Unit).run.run (v.call i (.enter h) s).after := by
  have hvisit := run_visit v i (.enter h) s
  rw [henter] at hvisit
  rw [walk_eq_round, round, run_bind_ok hvisit]

/-- Handing the listed children to a walk. -/
theorem run_forEachListed {h : Handle} {cs : List Handle} (hcs : w.children h = .ok cs) (j : ι)
    (s : σ) :
    (w.forEachListed v.log h (w.walk v j)).run.run s =
      (cs.forM (w.walk v j)).run.run (w.announced v h s) := by
  rw [forEachListed, hcs]
  rfl

end Walker

mutual

/-- **A run over the unfolding is the walk.** It ends as the walk does and leaves the visitors
in the same state. -/
theorem Tree.Runs.walk {w : Walker} {v : Visitor ι σ} {p : Path} {i : ι} {t : Tree} {s : σ}
    {r : Run ι σ} (hr : t.Runs w v p i s r) (h : Handle) (ht : w.unfold h = t) :
    (w.walk v i h).run.run s = (r.result, r.state) := by
  cases hr with
  | pruned henter =>
    obtain rfl : h = t.handle := by rw [← ht, w.handle_unfold]
    exact w.run_walk_pruned v henter
  | refused henter =>
    obtain ⟨rfl, hcs⟩ := Walker.children_of_unfold_eq_stuck ht
    rw [w.run_walk_some v henter, Walker.forEachListed, hcs]
    rfl
  | left henter hbelow =>
    -- the forest below is the unfolding of the children, so its run is the walk of all of them
    obtain ⟨rfl, cs, hcs, hforest⟩ := Walker.children_of_unfold_eq_node ht
    have hall := hbelow.forM cs hforest
    rw [← w.run_forEachListed v hcs] at hall
    rw [w.run_walk_some v henter, run_bind_ok hall]
    rfl
  | broken henter hbelow =>
    obtain ⟨rfl, cs, hcs, hforest⟩ := Walker.children_of_unfold_eq_node ht
    have hall := hbelow.forM cs hforest
    rw [← w.run_forEachListed v hcs] at hall
    rw [w.run_walk_some v henter, run_bind_error hall]

theorem Forest.Runs.forM {w : Walker} {v : Visitor ι σ} {p : Path} {k : Nat} {j : ι} {f : Forest}
    {s : σ} {r : Run ι σ} (hr : f.Runs w v p k j s r) (cs : List Handle)
    (hf : f = .ofList (cs.map w.unfold)) :
    (cs.forM (w.walk v j)).run.run s = (r.result, r.state) := by
  cases hr with
  | nil =>
    cases cs with
    | nil => rfl
    | cons c cs => cases hf
  | cons hfirst hrest =>
    cases cs with
    | nil => cases hf
    | cons c cs =>
      obtain ⟨ht, hf⟩ := Forest.cons.inj hf
      rw [List.forM_eq_forM, List.forM_cons, ← List.forM_eq_forM,
        run_bind_ok (hfirst.walk c ht.symm), hrest.forM cs hf]
  | stop hfirst =>
    cases cs with
    | nil => cases hf
    | cons c cs =>
      obtain ⟨ht, -⟩ := Forest.cons.inj hf
      rw [List.forM_eq_forM, List.forM_cons, run_bind_error (hfirst.walk c ht.symm)]

end

/-! ### Recording does not disturb -/

@[simp]
theorem Visitor.after_call_recorded (v : Visitor ι σ) (i : ι) (e : Event) (s : σ)
    (calls : List (Call ι σ)) :
    (v.recorded.call i e (s, calls)).after = ((v.call i e s).after, calls ++ [v.call i e s]) :=
  rfl

theorem Walker.announced_recorded (w : Walker) (v : Visitor ι σ) (h : Handle) (s : σ)
    (calls : List (Call ι σ)) :
    w.announced v.recorded h (s, calls) = (w.announced v h s, calls) := by
  rw [announced, announced, announce, announce]
  cases w.report h <;> rfl

mutual

/-- The recorded visitors are run through by the same rules, and the record grows by the calls
of the trail. -/
theorem Tree.Runs.recorded {w : Walker} {v : Visitor ι σ} {p : Path} {i : ι} {t : Tree} {s : σ}
    {r : Run ι σ} (hr : t.Runs w v p i s r) (calls : List (Call ι σ)) :
    ∃ r', t.Runs w v.recorded p i (s, calls) r' ∧ r'.result = r.result ∧
      r'.state = (r.state, calls ++ r.trail.map Prod.snd) := by
  cases hr with
  | pruned henter => exact ⟨_, .pruned henter, rfl, rfl⟩
  | refused henter => exact ⟨_, .refused henter, rfl, w.announced_recorded v _ _ _⟩
  | left henter hbelow =>
    -- below the node the record starts with the entry of the node
    obtain ⟨⟨trail', result', s''⟩, hbelow', hresult, hstate⟩ := hbelow.recorded (calls ++ [_])
    rw [← w.announced_recorded] at hbelow'
    obtain rfl := hresult
    obtain rfl := hstate
    exact ⟨_, .left henter hbelow', rfl, by simp⟩
  | broken henter hbelow =>
    obtain ⟨⟨trail', result', s''⟩, hbelow', hresult, hstate⟩ := hbelow.recorded (calls ++ [_])
    rw [← w.announced_recorded] at hbelow'
    obtain rfl := hresult
    obtain rfl := hstate
    exact ⟨_, .broken henter hbelow', rfl, by simp⟩

theorem Forest.Runs.recorded {w : Walker} {v : Visitor ι σ} {p : Path} {k : Nat} {j : ι}
    {f : Forest} {s : σ} {r : Run ι σ} (hr : f.Runs w v p k j s r) (calls : List (Call ι σ)) :
    ∃ r', f.Runs w v.recorded p k j (s, calls) r' ∧ r'.result = r.result ∧
      r'.state = (r.state, calls ++ r.trail.map Prod.snd) := by
  cases hr with
  | nil => exact ⟨_, .nil, rfl, by simp⟩
  | cons hfirst hrest =>
    obtain ⟨⟨trail₁, result₁, s₁⟩, hfirst', hresult, hstate⟩ := hfirst.recorded calls
    obtain rfl := hresult
    obtain rfl := hstate
    obtain ⟨r₂, hrest', hresult, hstate⟩ := hrest.recorded (calls ++ _)
    exact ⟨_, .cons hfirst' hrest', hresult, by simp [hstate]⟩
  | stop hfirst =>
    obtain ⟨⟨trail', result', s''⟩, hfirst', hresult, hstate⟩ := hfirst.recorded calls
    obtain rfl := hresult
    exact ⟨_, .stop hfirst', rfl, hstate⟩

end

/-! ### The run of a walk -/

namespace Walker

/-- The calls that a walk makes of its visitors, in order. -/
def calls (w : Walker) (v : Visitor ι σ) (i : ι) (h : Handle) (s : σ) : List (Call ι σ) :=
  ((w.walk v.recorded i h).run.run (s, [])).2.2

/-- The run of a walk. -/
def run (w : Walker) (v : Visitor ι σ) (i : ι) (h : Handle) (s : σ) : Run ι σ :=
  (w.unfold h).run w v [] i s

/-- The calls of a walk, each with the path of the occurrence it is about. -/
def trail (w : Walker) (v : Visitor ι σ) (i : ι) (h : Handle) (s : σ) : List (Path × Call ι σ) :=
  (w.run v i h s).trail

theorem runs (w : Walker) (v : Visitor ι σ) (i : ι) (h : Handle) (s : σ) :
    (w.unfold h).Runs w v [] i s (w.run v i h s) :=
  (w.unfold h).runs w v [] i s

/-- The run ends as the walk does. -/
theorem run_walk (w : Walker) (v : Visitor ι σ) (i : ι) (h : Handle) (s : σ) :
    (w.walk v i h).run.run s = ((w.run v i h s).result, (w.run v i h s).state) :=
  (w.runs v i h s).walk h rfl

/-- Every run over the unfolding has the calls of the walk. -/
theorem calls_eq_of_runs {w : Walker} {v : Visitor ι σ} {p : Path} {i : ι} {h : Handle} {s : σ}
    {r : Run ι σ} (hr : (w.unfold h).Runs w v p i s r) :
    w.calls v i h s = r.trail.map Prod.snd := by
  obtain ⟨r', hr', -, hstate⟩ := hr.recorded []
  rw [calls, hr'.walk h rfl, hstate, List.nil_append]

/-- The trail has the calls of the walk. -/
theorem map_snd_trail (w : Walker) (v : Visitor ι σ) (i : ι) (h : Handle) (s : σ) :
    (w.trail v i h s).map Prod.snd = w.calls v i h s :=
  (calls_eq_of_runs (w.runs v i h s)).symm

/-- **Recording does not disturb.** With the record set aside, the walk of the recorded visitors
is the walk of the visitors. -/
theorem run_walk_recorded (w : Walker) (v : Visitor ι σ) (i : ι) (h : Handle) (s : σ) :
    (w.walk v.recorded i h).run.run (s, []) =
      (((w.walk v i h).run.run s).1, ((w.walk v i h).run.run s).2, w.calls v i h s) := by
  obtain ⟨r', hr', hresult, hstate⟩ := (w.runs v i h s).recorded []
  rw [← map_snd_trail, hr'.walk h rfl, run_walk, hresult, hstate]
  rfl

end Walker

end SqlTree
