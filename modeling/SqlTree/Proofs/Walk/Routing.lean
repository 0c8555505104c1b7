import Mathlib.Data.List.Nodup
import SqlTree.Proofs.Walk.Nesting

/-!
# Who is told what

A visitor that wants to descend names the visitor that the children are shown to. That visitor may
name yet another one further down, so who is told of a node depends on all answers above it.

* `Routed` says how a trail distributes its calls: the entry of the root goes to the visitor of
  the walk, the entry of a child to the visitor that the entry of its parent named, and the leaving
  of a node back to the visitor that was told of its entry.
* `Visitor.AgreesUpToLeaving` relates visitors that differ at most in what they answer when a node
  is left. A walk does not tell them apart: `Tree.Runs.of_agrees` takes a run of the one through
  the same rules with the other.

Main statement: `Walker.routed_walk`.
-/

set_option autoImplicit false

namespace SqlTree

variable {ι σ : Type} {w : Walker} {v : Visitor ι σ}

/-! ### Entries and their parents -/

/-- How the calls of a walk of a node reach their visitors. -/
structure Routed (i : ι) (h : Handle) (trail : List (Path × Call ι σ)) : Prop where
  /-- The walk starts with the entry of the root, told to the visitor of the walk. -/
  root : ∃ c rest, trail = ([], c) :: rest ∧ c.event = .enter h ∧ c.receiver = i
  /-- The entry of a child is told to the visitor that the one entry of its parent named. -/
  child : ∀ p k c, (p ++ [k], c) ∈ trail → c.isLeave = false →
    ∃ d, (p, d) ∈ trail ∧ d.isLeave = false ∧ d.answer = some c.receiver ∧
      ∀ d', (p, d') ∈ trail → d'.isLeave = false → d' = d
  /-- The leaving of a node is told to the visitor that was told of its one entry. -/
  leaving : ∀ p c, (p, c) ∈ trail → c.isLeave →
    ∃ d, (p, d) ∈ trail ∧ d.isLeave = false ∧ d.receiver = c.receiver ∧
      ∀ d', (p, d') ∈ trail → d'.isLeave = false → d' = d

/-- A run starts with the entry of the occurrence that it shows. -/
theorem Tree.Runs.exists_cons {p : Path} {i : ι} {t : Tree} {s : σ} {r : Run ι σ}
    (hr : t.Runs w v p i s r) : ∃ rest, r.trail = (p, v.call i (.enter t.handle) s) :: rest := by
  cases hr with
  | pruned henter => exact ⟨_, rfl⟩
  | refused henter => exact ⟨_, rfl⟩
  | left henter hbelow => exact ⟨_, rfl⟩
  | broken henter hbelow => exact ⟨_, rfl⟩

mutual

/-- An entry is either the one with which the run starts, or it goes to the visitor that the entry
of its parent named. -/
theorem Tree.Runs.receiver_of_mem {p : Path} {i : ι} {t : Tree} {s : σ} {r : Run ι σ}
    (hr : t.Runs w v p i s r) : ∀ x ∈ r.trail, x.2.isLeave = false →
      (x.1 = p ∧ x.2.receiver = i) ∨ ∃ q k d, x.1 = q ++ [k] ∧ (q, d) ∈ r.trail ∧
        d.isLeave = false ∧ d.answer = some x.2.receiver := by
  intro x hx hentry
  cases hr with
  | pruned henter =>
    obtain rfl := List.mem_singleton.1 hx
    exact .inl ⟨rfl, rfl⟩
  | refused henter =>
    obtain rfl := List.mem_singleton.1 hx
    exact .inl ⟨rfl, rfl⟩
  | left henter hbelow =>
    rcases mem_enclosed.1 hx with rfl | hx | rfl
    · exact .inl ⟨rfl, rfl⟩
    · obtain ⟨m, hpath, hreceiver⟩ | ⟨q, k, d, hpath, hd, hdentry, hanswer⟩ :=
        hbelow.receiver_of_mem x hx hentry
      · -- a child of the node: the node itself is the parent
        rw [← hreceiver] at henter
        exact .inr ⟨p, m, _, hpath, List.mem_cons_self, rfl, henter⟩
      · exact .inr ⟨q, k, d, hpath, List.mem_cons_of_mem _ (List.mem_append_left _ hd), hdentry,
          hanswer⟩
    · cases hentry
  | broken henter hbelow =>
    rcases List.mem_cons.1 hx with rfl | hx
    · exact .inl ⟨rfl, rfl⟩
    · obtain ⟨m, hpath, hreceiver⟩ | ⟨q, k, d, hpath, hd, hdentry, hanswer⟩ :=
        hbelow.receiver_of_mem x hx hentry
      · rw [← hreceiver] at henter
        exact .inr ⟨p, m, _, hpath, List.mem_cons_self, rfl, henter⟩
      · exact .inr ⟨q, k, d, hpath, List.mem_cons_of_mem _ hd, hdentry, hanswer⟩

theorem Forest.Runs.receiver_of_mem {p : Path} {k : Nat} {j : ι} {f : Forest} {s : σ}
    {r : Run ι σ} (hr : f.Runs w v p k j s r) : ∀ x ∈ r.trail, x.2.isLeave = false →
      (∃ m, x.1 = p ++ [m] ∧ x.2.receiver = j) ∨ ∃ q k d, x.1 = q ++ [k] ∧ (q, d) ∈ r.trail ∧
        d.isLeave = false ∧ d.answer = some x.2.receiver := by
  intro x hx hentry
  cases hr with
  | nil => simp at hx
  | cons hfirst hrest =>
    rcases List.mem_append.1 hx with hx | hx
    · obtain ⟨hpath, hreceiver⟩ | ⟨q, m, d, hpath, hd, hdentry, hanswer⟩ :=
        hfirst.receiver_of_mem x hx hentry
      · exact .inl ⟨k, hpath, hreceiver⟩
      · exact .inr ⟨q, m, d, hpath, List.mem_append_left _ hd, hdentry, hanswer⟩
    · obtain hdirect | ⟨q, m, d, hpath, hd, hdentry, hanswer⟩ :=
        hrest.receiver_of_mem x hx hentry
      · exact .inl hdirect
      · exact .inr ⟨q, m, d, hpath, List.mem_append_right _ hd, hdentry, hanswer⟩
  | stop hfirst =>
    obtain ⟨hpath, hreceiver⟩ | hparent := hfirst.receiver_of_mem x hx hentry
    · exact .inl ⟨k, hpath, hreceiver⟩
    · exact .inr hparent

end

/-- Where no occurrence is entered twice, the entry of an occurrence is one call. -/
theorem eq_of_nodup_entered {trail : List (Path × Call ι σ)} (hnodup : (entered trail).Nodup)
    {p : Path} {c d : Call ι σ} (hc : (p, c) ∈ trail) (hcentry : c.isLeave = false)
    (hd : (p, d) ∈ trail) (hdentry : d.isLeave = false) : c = d := by
  have hcd := List.inj_on_of_nodup_map hnodup (List.mem_filter.2 ⟨hc, by simp [hcentry]⟩)
    (List.mem_filter.2 ⟨hd, by simp [hdentry]⟩) rfl
  exact congrArg Prod.snd hcd

theorem Walker.routed_trail (w : Walker) (v : Visitor ι σ) (i : ι) (h : Handle) (s : σ) :
    Routed i h (w.trail v i h s) where
  root := by
    obtain ⟨rest, htrail⟩ := (w.runs v i h s).exists_cons
    rw [w.handle_unfold] at htrail
    exact ⟨_, rest, htrail, rfl, rfl⟩
  child p k c hc hentry := by
    obtain ⟨hpath, -⟩ | ⟨q, m, d, hpath, hd, hdentry, hanswer⟩ :=
      (w.runs v i h s).receiver_of_mem (p ++ [k], c) hc hentry
    · -- only the root starts the run, and its path is empty
      simp at hpath
    · obtain ⟨rfl, -⟩ := List.append_inj' hpath rfl
      exact ⟨d, hd, hdentry, hanswer, fun d' hd' hentry' =>
        eq_of_nodup_entered (w.places_trail v i h s).distinct hd' hentry' hd hdentry⟩
  leaving p c hc hleave := by
    obtain ⟨d, hd, hopens, hreceiver⟩ :=
      (w.runs v i h s).exists_opens_of_leave (p, c) hc hleave
    obtain ⟨n, j, hevent, -⟩ := Call.opens_iff.1 hopens
    have hdentry := Call.isLeave_eq_false_iff.2 ⟨n, hevent⟩
    exact ⟨d, hd, hdentry, hreceiver, fun d' hd' hentry' =>
      eq_of_nodup_entered (w.places_trail v i h s).distinct hd' hentry' hd hdentry⟩

/-! ### Answers to leaving do not matter -/

/-- Two families of visitors change the state alike and answer entries alike. What they answer
when a node is left is open. -/
structure Visitor.AgreesUpToLeaving (v v' : Visitor ι σ) : Prop where
  after_eq : ∀ i e s, (v'.call i e s).after = (v.call i e s).after
  answer_eq : ∀ i h s, (v'.call i (.enter h) s).answer = (v.call i (.enter h) s).answer
  logged_eq : ∀ entry s, v'.logged entry s = v.logged entry s

/-- A call without its answer. -/
def Call.sight (c : Call ι σ) : ι × Event × σ × σ :=
  (c.receiver, c.event, c.before, c.after)

section Agrees

variable {v' : Visitor ι σ}

theorem Visitor.AgreesUpToLeaving.sight_eq (hv : v.AgreesUpToLeaving v') (i : ι) (e : Event)
    (s : σ) : (v'.call i e s).sight = (v.call i e s).sight := by
  rw [Call.sight, Call.sight, hv.after_eq]
  rfl

theorem Visitor.AgreesUpToLeaving.announced_eq (hv : v.AgreesUpToLeaving v') (h : Handle)
    (s : σ) : w.announced v' h s = w.announced v h s := by
  rw [Walker.announced, Walker.announced, Walker.announce, Walker.announce]
  cases w.report h with
  | none => rfl
  | some entry => exact hv.logged_eq entry s

mutual

/-- The other visitors are run through by the same rules, with the same result and state. -/
theorem Tree.Runs.of_agrees (hv : v.AgreesUpToLeaving v') {p : Path} {i : ι} {t : Tree} {s : σ}
    {r : Run ι σ} (hr : t.Runs w v p i s r) :
    ∃ trail, t.Runs w v' p i s ⟨trail, r.result, r.state⟩ ∧
      trail.map (·.2.sight) = r.trail.map (·.2.sight) := by
  cases hr with
  | pruned henter =>
    have henter' := (hv.answer_eq _ _ _).trans henter
    have hpruned := Tree.Runs.pruned (w := w) (p := p) henter'
    rw [hv.logged_eq, hv.after_eq] at hpruned
    exact ⟨_, hpruned, by simp [hv.sight_eq]⟩
  | @refused p i j h e s henter =>
    have henter' := (hv.answer_eq _ _ _).trans henter
    have hrefused := Tree.Runs.refused (w := w) (p := p) (e := e) henter'
    rw [hv.announced_eq, hv.after_eq] at hrefused
    exact ⟨_, hrefused, by simp [hv.sight_eq]⟩
  | left henter hbelow =>
    have henter' := (hv.answer_eq _ _ _).trans henter
    obtain ⟨trail', hbelow', hsights⟩ := hbelow.of_agrees hv
    rw [← hv.announced_eq, ← hv.after_eq] at hbelow'
    have hleft := Tree.Runs.left henter' hbelow'
    -- the answer to the leaving differs, but no rule looks at it
    rw [hv.after_eq] at hleft
    exact ⟨_, hleft, by simp [hv.sight_eq, hsights]⟩
  | broken henter hbelow =>
    have henter' := (hv.answer_eq _ _ _).trans henter
    obtain ⟨trail', hbelow', hsights⟩ := hbelow.of_agrees hv
    rw [← hv.announced_eq, ← hv.after_eq] at hbelow'
    have hbroken := Tree.Runs.broken henter' hbelow'
    exact ⟨_, hbroken, by simp [hv.sight_eq, hsights]⟩

theorem Forest.Runs.of_agrees (hv : v.AgreesUpToLeaving v') {p : Path} {k : Nat} {j : ι}
    {f : Forest} {s : σ} {r : Run ι σ} (hr : f.Runs w v p k j s r) :
    ∃ trail, f.Runs w v' p k j s ⟨trail, r.result, r.state⟩ ∧
      trail.map (·.2.sight) = r.trail.map (·.2.sight) := by
  cases hr with
  | nil => exact ⟨_, .nil, rfl⟩
  | cons hfirst hrest =>
    obtain ⟨trail₁, hfirst', hsights₁⟩ := hfirst.of_agrees hv
    obtain ⟨trail₂, hrest', hsights₂⟩ := hrest.of_agrees hv
    have hcons := Forest.Runs.cons hfirst' hrest'
    refine ⟨_, hcons, ?_⟩
    rw [List.map_append, List.map_append, hsights₁, hsights₂]
  | stop hfirst =>
    obtain ⟨trail', hfirst', hsights⟩ := hfirst.of_agrees hv
    exact ⟨_, .stop hfirst', hsights⟩

end

end Agrees

namespace Walker

/-- **Who is told what.** The entry of the root goes to the visitor of the walk, every other entry
to the visitor that the entry of the parent occurrence named, and a leaving to the visitor that
was told of the entry, whomever that entry named. Answers to leaving have no influence: visitors
that differ in nothing else give the same result and the same last state, and are told the same in
the same states. -/
theorem routed_walk (w : Walker) (v : Visitor ι σ) (i : ι) (h : Handle) (s : σ) :
    w.Places h (w.calls v i h s) (w.trail v i h s) ∧
    Routed i h (w.trail v i h s) ∧
    ∀ v' : Visitor ι σ, v.AgreesUpToLeaving v' →
      (w.walk v' i h).run.run s = (w.walk v i h).run.run s ∧
      (w.calls v' i h s).map Call.sight = (w.calls v i h s).map Call.sight := by
  refine ⟨w.places_trail v i h s, w.routed_trail v i h s, fun v' hv => ?_⟩
  obtain ⟨trail', hruns, hsights⟩ := (w.runs v i h s).of_agrees hv
  refine ⟨(hruns.walk h rfl).trans (w.run_walk v i h s).symm, ?_⟩
  rw [calls_eq_of_runs hruns, calls_eq_of_runs (w.runs v i h s), List.map_map, List.map_map]
  exact hsights

/-- The walk of the clause does not depend on what is answered when a node is left. What is below
the hint goes to the second visitor, and the leaving of the hint to the first one again. -/
theorem routed_hinted :
    (Visitor.relay none).AgreesUpToLeaving (.relay (some true)) ∧
    (hinting.walk (.relay (some true)) false .hinted).run.run 0 =
      (hinting.walk (.relay none) false .hinted).run.run 0 ∧
    (hinting.calls (.relay (some true)) false .hinted 0).map Call.sight =
      (hinting.calls (.relay none) false .hinted 0).map Call.sight ∧
    ((hinting.trail (.relay (some true)) false .hinted 0).map fun x =>
        (x.1, x.2.receiver, x.2.event.isLeave, x.2.answer)) =
      [([], false, false, some false), ([0], false, false, some true),
        ([0, 0], true, false, some true), ([0, 0, 0], true, false, none),
        ([0, 0], true, true, some true), ([0], false, true, some true),
        ([], false, true, some true)] := by
  have hagrees : (Visitor.relay none).AgreesUpToLeaving (.relay (some true)) :=
    { after_eq := fun i e s => by cases e <;> rfl
      answer_eq := fun _ _ _ => rfl
      logged_eq := fun _ _ => rfl }
  obtain ⟨hwalk, hsights⟩ := (routed_walk hinting (.relay none) false .hinted 0).2.2 _ hagrees
  exact ⟨hagrees, hwalk, hsights, by cbv⟩

end Walker

end SqlTree
