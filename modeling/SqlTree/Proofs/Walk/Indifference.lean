import Mathlib
import SqlTree.Proofs.Node.Silhouette
import SqlTree.Proofs.Walk.Journal

/-!
# Walks do not look at data

A walk goes by silhouettes. If two nodes have the same silhouette, and the visitors go by what the
nodes that they are shown are known by, then the walks of both nodes end alike, tell the same and
report the same, however much the data in the two trees differs.

* `Notice` is something that visitors come to know: that they are told of an event, or that
  something is reported. `Visitor.HeedsBadges` says that their answers depend on the history of
  such notices only, and of the nodes in it only on what they are known by.
* `Visitor.Lockstep` is the invariant for two runs: a relation of states that the visitors keep if
  both runs show nodes that are known by the same, and under which they answer alike.
* `Tree.Runs.lockstep`: a run over one tree is repeated over every other with the same silhouette.

Main statement: `Walker.walk_eq_of_silhouette_eq`.
-/

set_option autoImplicit false

namespace SqlTree

variable {ι σ : Type}

/-! ### Visitors that go by badges -/

/-- Something that visitors come to know. -/
inductive Notice (ι : Type) where
  /-- A visitor is told of an event. -/
  | told (receiver : ι) (event : Event)
  /-- Something is reported. -/
  | reported (entry : LogEvent)

/-- An event without its node, of which only the badge is kept. -/
def Event.badge? (e : Event) : Option (Kind × Option String) :=
  e.node?.map Handle.badge

/-- What of a notice can be seen without looking at data. -/
def Notice.badge : Notice ι → (ι × Option (Kind × Option String)) ⊕ LogEvent
  | told i e => .inl (i, e.badge?)
  | reported entry => .inr entry

/-- The receiver of a call, and of what it is told only what can be seen without looking at
data. -/
def Call.badge (c : Call ι σ) : ι × Option (Kind × Option String) :=
  (c.receiver, c.event.badge?)

namespace Visitor

/-- The state after a notice. -/
def noticing (v : Visitor ι σ) (s : σ) : Notice ι → σ
  | .told i e => (v.call i e s).after
  | .reported entry => v.logged entry s

/-- From a state on, the answers to entries depend only on the badges of the nodes that have been
shown. -/
def HeedsBadges (v : Visitor ι σ) (s : σ) : Prop :=
  ∀ (history history' : List (Notice ι)) (i : ι) (n n' : Handle),
    history'.map Notice.badge = history.map Notice.badge → n'.badge = n.badge →
    (v.call i (.enter n') (history'.foldl v.noticing s)).answer =
      (v.call i (.enter n) (history.foldl v.noticing s)).answer

/-- What is reported can be seen of a notice, and is all that comes into the journal. -/
theorem noticing_journaled (v : Visitor ι σ) (t : σ × List LogEvent) (x : Notice ι) :
    v.journaled.noticing t x =
      (v.noticing t.1 x, t.2 ++ x.badge.elim (fun _ => []) fun entry => [entry]) := by
  cases x with
  | told i e => exact Prod.ext rfl (List.append_nil t.2).symm
  | reported entry => rfl

/-- In related states the visitors answer alike to nodes with the same badge, and whatever they
come to know relates the states again. -/
structure Lockstep (v : Visitor ι σ) (R : σ → σ → Prop) : Prop where
  answer_eq : ∀ {s s' : σ}, R s s' → ∀ i {n n' : Handle}, n'.badge = n.badge →
    (v.call i (.enter n') s').answer = (v.call i (.enter n) s).answer
  noticing : ∀ {s s' : σ}, R s s' → ∀ {x x' : Notice ι}, x'.badge = x.badge →
    R (v.noticing s x) (v.noticing s' x')

/-- Histories with the same badges lead from `s` to the two states. -/
def AlikeFrom (v : Visitor ι σ) (s t t' : σ) : Prop :=
  ∃ history history' : List (Notice ι), history'.map Notice.badge = history.map Notice.badge ∧
    t = history.foldl v.noticing s ∧ t' = history'.foldl v.noticing s

theorem AlikeFrom.refl (v : Visitor ι σ) (s : σ) : v.AlikeFrom s s s :=
  ⟨[], [], rfl, rfl, rfl⟩

/-- Visitors that go by badges stay in lockstep as long as the histories have the same badges. -/
theorem HeedsBadges.lockstep {v : Visitor ι σ} {s : σ} (hv : v.HeedsBadges s) :
    v.Lockstep (v.AlikeFrom s) where
  answer_eq := by
    rintro _ _ ⟨history, history', hbadges, rfl, rfl⟩ i n n' hn
    exact hv history history' i n n' hbadges hn
  noticing := by
    rintro _ _ ⟨history, history', hbadges, rfl, rfl⟩ x x' hx
    refine ⟨history ++ [x], history' ++ [x'], ?_, ?_, ?_⟩
    · rw [List.map_append, List.map_append, hbadges, List.map_singleton, List.map_singleton, hx]
    · rw [List.foldl_append]
      rfl
    · rw [List.foldl_append]
      rfl

namespace Lockstep

variable {v : Visitor ι σ} {R : σ → σ → Prop} {s s' : σ} {h h' : Handle}

/-- Histories with the same badges relate the states again. -/
theorem foldl (hv : v.Lockstep R) : (history history' : List (Notice ι)) →
    history'.map Notice.badge = history.map Notice.badge → {s s' : σ} → R s s' →
    R (history.foldl v.noticing s) (history'.foldl v.noticing s')
  | [], history', hbadges, _, _, hs => by
    obtain rfl := List.map_eq_nil_iff.1 hbadges
    exact hs
  | x :: history, history', hbadges, _, _, hs => by
    obtain ⟨x', history', rfl, hx, hbadges⟩ := List.map_eq_cons_iff.1 hbadges
    exact hv.foldl history history' hbadges (hv.noticing hs hx)

/-- So it is enough for the answers that some such relation holds at the start. -/
theorem heedsBadges (hv : v.Lockstep R) (hs : R s s) : v.HeedsBadges s := by
  intro history history' i n n' hbadges hn
  exact hv.answer_eq (hv.foldl history history' hbadges hs) i hn

theorem entered (hv : v.Lockstep R) (hs : R s s') (i : ι) (hbadge : h'.badge = h.badge) :
    R (v.call i (.enter h) s).after (v.call i (.enter h') s').after := by
  have hnotice : (Notice.told i (.enter h')).badge = (Notice.told i (.enter h)).badge := by
    simp [Notice.badge, Event.badge?, Event.node?, hbadge]
  exact hv.noticing hs hnotice

theorem left (hv : v.Lockstep R) (hs : R s s') (i : ι) :
    R (v.call i .leave s).after (v.call i .leave s').after :=
  hv.noticing hs (x := .told i .leave) rfl

theorem logged (hv : v.Lockstep R) (hs : R s s') (entry : LogEvent) :
    R (v.logged entry s) (v.logged entry s') :=
  hv.noticing hs (x := .reported entry) rfl

/-- Nodes with the same badge are announced alike. -/
theorem announced (hv : v.Lockstep R) (hs : R s s') (w : Walker) (hbadge : h'.badge = h.badge) :
    R (w.announced v h s) (w.announced v h' s') := by
  have hreport : w.report h' = w.report h := by
    have hkind : h'.dialectKind? = h.dialectKind? := congrArg Prod.snd hbadge
    rw [Walker.report, Walker.report, hkind]
  rw [Walker.announced, Walker.announced, Walker.announce, Walker.announce, hreport]
  cases w.report h with
  | none => exact hs
  | some entry => exact hv.logged hs entry

/-- Visitors that keep a journal stay in lockstep, and their journals stay the same. -/
theorem journaled (hv : v.Lockstep R) :
    v.journaled.Lockstep fun t t' => R t.1 t'.1 ∧ t'.2 = t.2 where
  answer_eq := fun hs i _ _ hn => hv.answer_eq hs.1 i hn
  noticing := by
    rintro t t' ⟨hs, hjournal⟩ x x' hx
    rw [noticing_journaled, noticing_journaled, hx, hjournal]
    exact ⟨hv.noticing hs hx, rfl⟩

end Lockstep

end Visitor

/-! ### Two runs -/

/-- The two runs end alike and in related states, and their calls are made in the same places of
the same receivers, who are told of the same as far as data is not looked at. -/
structure Run.Matches (R : σ → σ → Prop) (r r' : Run ι σ) : Prop where
  result_eq : r'.result = r.result
  state : R r.state r'.state
  badges_eq : (r'.trail.map fun x => (x.1, x.2.badge)) = r.trail.map fun x => (x.1, x.2.badge)

section Runs

variable {w : Walker} {v : Visitor ι σ} {R : σ → σ → Prop}

theorem Visitor.badge_call_enter (i : ι) {h h' : Handle} (hbadge : h'.badge = h.badge) (s s' : σ) :
    (v.call i (.enter h') s').badge = (v.call i (.enter h) s).badge := by
  simp [Visitor.call, Call.badge, Event.badge?, Event.node?, hbadge]

mutual

/-- **A run is repeated over every tree with the same silhouette.** -/
theorem Tree.Runs.lockstep (hv : v.Lockstep R) {p : Path} {i : ι} {t : Tree} {s : σ} {r : Run ι σ}
    (hr : t.Runs w v p i s r) {h h' : Handle} (ht : w.unfold h = t)
    (hsame : w.silhouette h' = w.silhouette h) {s' : σ} (hs : R s s') :
    ∃ r', (w.unfold h').Runs w v p i s' r' ∧ r.Matches R r' := by
  have hbadge := Walker.badge_eq_of_silhouette_eq hsame
  have hcall := v.badge_call_enter i hbadge s s'
  have hanswer := hv.answer_eq hs i hbadge
  have hentered := hv.entered hs i hbadge
  have hannounced := hv.announced hentered w hbadge
  cases hr with
  | pruned henter =>
    obtain rfl : h = t.handle := by rw [← ht, w.handle_unfold]
    have hkind : h'.kind = t.handle.kind := congrArg Prod.fst hbadge
    have hrun := Tree.Runs.pruned (w := w) (v := v) (p := p) (i := i) (s := s')
      (t := w.unfold h') (by rw [w.handle_unfold, hanswer, henter])
    rw [w.handle_unfold, hkind] at hrun
    exact ⟨_, hrun, rfl, hv.logged hentered _, by simp [hcall]⟩
  | refused henter =>
    obtain ⟨rfl, hcs⟩ := Walker.children_of_unfold_eq_stuck ht
    have hcs' := Walker.children_eq_error_of_silhouette_eq hsame hcs
    rw [Walker.unfold_eq_stuck hcs']
    exact ⟨_, .refused (hanswer.trans henter), rfl, hannounced, by simp [hcall]⟩
  | left henter hbelow =>
    obtain ⟨rfl, cs, hcs, hforest⟩ := Walker.children_of_unfold_eq_node ht
    obtain ⟨cs', hcs', hsames⟩ := Walker.exists_children_of_silhouette_eq hsame hcs
    obtain ⟨⟨trail', result', s₁'⟩, hbelow', hresult, hstate, hbadges⟩ :=
      hbelow.lockstep hv hforest hsames hannounced
    obtain rfl := hresult
    rw [Walker.unfold_eq_node hcs']
    refine ⟨_, .left (hanswer.trans henter) hbelow', rfl, hv.left hstate i, ?_⟩
    simp only [List.map_cons, List.map_append, List.map_nil, hbadges, hcall]
    rfl
  | broken henter hbelow =>
    obtain ⟨rfl, cs, hcs, hforest⟩ := Walker.children_of_unfold_eq_node ht
    obtain ⟨cs', hcs', hsames⟩ := Walker.exists_children_of_silhouette_eq hsame hcs
    obtain ⟨⟨trail', result', s₁'⟩, hbelow', hresult, hstate, hbadges⟩ :=
      hbelow.lockstep hv hforest hsames hannounced
    obtain rfl := hresult
    rw [Walker.unfold_eq_node hcs']
    refine ⟨_, .broken (hanswer.trans henter) hbelow', rfl, hstate, ?_⟩
    simp only [List.map_cons, hbadges, hcall]

theorem Forest.Runs.lockstep (hv : v.Lockstep R) {p : Path} {k : Nat} {j : ι} {f : Forest} {s : σ}
    {r : Run ι σ} (hr : f.Runs w v p k j s r) {cs cs' : List Handle}
    (hf : f = .ofList (cs.map w.unfold)) (hsame : cs'.map w.silhouette = cs.map w.silhouette)
    {s' : σ} (hs : R s s') :
    ∃ r', (Forest.ofList (cs'.map w.unfold)).Runs w v p k j s' r' ∧ r.Matches R r' := by
  cases cs with
  | nil =>
    obtain rfl : cs' = [] := List.map_eq_nil_iff.1 hsame
    cases hr with
    | nil => exact ⟨_, .nil, rfl, hs, rfl⟩
    | cons hfirst hrest => cases hf
    | stop hfirst => cases hf
  | cons c cs =>
    obtain ⟨c', cs', rfl, hc, hsames⟩ := List.map_eq_cons_iff.1 hsame
    cases hr with
    | nil => cases hf
    | cons hfirst hrest =>
      obtain ⟨ht, hf⟩ := Forest.cons.inj hf
      obtain ⟨⟨trail', result', s₁'⟩, hfirst', hresult, hstate, hbadges⟩ :=
        hfirst.lockstep hv ht.symm hc hs
      obtain rfl := hresult
      obtain ⟨r', hrest', hmatches⟩ := hrest.lockstep hv hf hsames hstate
      refine ⟨_, .cons hfirst' hrest', hmatches.result_eq, hmatches.state, ?_⟩
      simp only [List.map_append, hbadges, hmatches.badges_eq]
    | stop hfirst =>
      obtain ⟨ht, -⟩ := Forest.cons.inj hf
      obtain ⟨⟨trail', result', s₁'⟩, hfirst', hresult, hstate, hbadges⟩ :=
        hfirst.lockstep hv ht.symm hc hs
      obtain rfl := hresult
      exact ⟨_, .stop hfirst', rfl, hstate, hbadges⟩

end

end Runs

/-! ### Two walks -/

namespace Walker

/-- Visitors in lockstep: the walks end alike, and their calls match. -/
theorem walk_eq_of_lockstep {w : Walker} {v : Visitor ι σ} {R : σ → σ → Prop} (hv : v.Lockstep R)
    {h h' : Handle} (hsame : w.silhouette h' = w.silhouette h) (i : ι) (s s' : σ) (hs : R s s') :
    ((w.walk v i h').run.run s').1 = ((w.walk v i h).run.run s).1 ∧
      R ((w.walk v i h).run.run s).2 ((w.walk v i h').run.run s').2 ∧
      (w.calls v i h' s').map Call.badge = (w.calls v i h s).map Call.badge := by
  obtain ⟨r', hruns', hresult, hstate, hbadges⟩ := (w.runs v i h s).lockstep hv rfl hsame hs
  rw [hruns'.walk h' rfl, w.run_walk v i h s]
  refine ⟨hresult, hstate, ?_⟩
  rw [calls_eq_of_runs hruns', calls_eq_of_runs (w.runs v i h s), List.map_map, List.map_map]
  have hforget := congrArg (List.map Prod.snd) hbadges
  rw [List.map_map, List.map_map] at hforget
  exact hforget

/-- **Walks do not look at data.** Let two nodes have the same silhouette, and let the visitors go
by what they are shown of kinds and dialect kinds. Then both walks have the same result, tell the
same receivers of the same kinds and leavings in the same order, and report the same. -/
theorem walk_eq_of_silhouette_eq (w : Walker) (h h' : Handle)
    (hsame : w.silhouette h' = w.silhouette h) (v : Visitor ι σ) (i : ι) (s : σ)
    (hv : v.HeedsBadges s) :
    ((w.walk v i h').run.run s).1 = ((w.walk v i h).run.run s).1 ∧
    (w.calls v i h' s).map Call.badge = (w.calls v i h s).map Call.badge ∧
    w.journal v i h' s = w.journal v i h s := by
  have hstart := Visitor.AlikeFrom.refl v s
  obtain ⟨hresult, -, hcalls⟩ := walk_eq_of_lockstep hv.lockstep hsame i s s hstart
  -- the journal is part of the state of the visitors that keep it
  obtain ⟨-, ⟨-, hjournal⟩, -⟩ :=
    walk_eq_of_lockstep hv.lockstep.journaled hsame i (s, []) (s, []) ⟨hstart, rfl⟩
  exact ⟨hresult, hcalls, hjournal⟩

/-- The visitors that count their calls go by kinds. -/
theorem heedsBadges_relay (answer : Option Bool) (s : Nat) :
    (Visitor.relay answer).HeedsBadges s := by
  have hcount : ∀ i e t, ((Visitor.relay answer).call i e t).after = t + 1 := by
    intro i e t
    cases e <;> rfl
  refine Visitor.Lockstep.heedsBadges (R := Eq) ⟨?_, ?_⟩ rfl
  · rintro t _ rfl i n n' hbadge
    have hkind : n'.kind = n.kind := congrArg Prod.fst hbadge
    simp [Visitor.call, Visitor.relay, hkind]
  · rintro t _ rfl x x' hbadge
    cases x with
    | told i e =>
      cases x' with
      | told i' e' => exact (hcount i e t).trans (hcount i' e' t).symm
      | reported entry' => cases hbadge
    | reported entry =>
      cases x' with
      | told i' e' => cases hbadge
      | reported entry' => rfl

/-- A name in a list, and another name that is not in a list: the names, the negation and a field
that is in no row differ. -/
theorem walk_eq_listed :
    let h : Handle := .listed ⟨"a", none, ⟨0, 1⟩⟩ false .nil
    let h' : Handle := .listed ⟨"Order", some '"', ⟨7, 14⟩⟩ true
      (.cons "note" (.many (.cons (.ref 3 .wildcard rfl (.form .nil)) .nil)) .nil)
    let v : Visitor Bool Nat := .relay none
    hinting.silhouette h' = hinting.silhouette h ∧ v.HeedsBadges 0 ∧
    ((hinting.walk v false h').run.run 0).1 = ((hinting.walk v false h).run.run 0).1 ∧
    (hinting.calls v false h' 0).map Call.badge = (hinting.calls v false h 0).map Call.badge ∧
    hinting.journal v false h' 0 = hinting.journal v false h 0 ∧
    (hinting.calls v false h 0).map Call.badge =
      [(false, some (.inList, none)), (false, some (.identifier, none)),
        (false, some (.ident, none)), (false, none), (false, some (.dialect, some "hint")),
        (true, some (.identifier, none)), (true, some (.ident, none)), (true, none),
        (false, none), (false, none)] ∧
    hinting.journal v false h 0 = [.pruned .ident, .dispatching "hint" 1, .pruned .ident] := by
  intro h h' v
  have hsame : hinting.silhouette h' = hinting.silhouette h := by cbv
  have hv : v.HeedsBadges 0 := heedsBadges_relay none 0
  obtain ⟨hresult, hcalls, hjournal⟩ := walk_eq_of_silhouette_eq hinting h h' hsame v false 0 hv
  exact ⟨hsame, hv, hresult, hcalls, hjournal, by cbv, by cbv⟩

end Walker

end SqlTree
