import Mathlib
import SqlTree.Proofs.Walk.Trail

/-!
# Entering and leaving are well nested

The calls of a walk that succeeds form a well-nested sequence, whatever the visitors do: an entry
that is answered with a visitor is closed by one leaving, told to the visitor that was told of
the entry, and a pruned entry is not closed at all.

* `WellNested` is the grammar of such sequences of calls; it knows nothing of trees.
* `Paired` says the same of a trail: the calls between an entry and its leaving are exactly those
  at the occurrences below.
* `heard` is the word of entries and leavings that a single visitor hears, without the entries
  that it pruned; `Balanced` is the usual condition on such words.

Main statement: `Walker.wellNested_of_walk_ok`.
-/

set_option autoImplicit false

namespace SqlTree

variable {ι σ : Type}

/-! ### Well-nested calls -/

/-- Well-nested sequences of calls. -/
inductive WellNested : List (Call ι σ) → Prop
  | nil : WellNested []
  /-- A pruned entry stands alone. -/
  | pruned {c : Call ι σ} {rest : List (Call ι σ)} (hc : c.prunes) (hrest : WellNested rest) :
      WellNested (c :: rest)
  /-- An entry and the leaving that closes it go to the same visitor. -/
  | paired {c d : Call ι σ} {inner rest : List (Call ι σ)} (hc : c.opens)
      (hinner : WellNested inner) (hd : d.isLeave) (hsame : d.receiver = c.receiver)
      (hrest : WellNested rest) : WellNested (c :: (inner ++ d :: rest))

theorem WellNested.append {l l' : List (Call ι σ)} (hl : WellNested l) (hl' : WellNested l') :
    WellNested (l ++ l') := by
  induction hl with
  | nil => exact hl'
  | pruned hc hrest ih => exact .pruned hc ih
  | paired hc hinner hd hsame hrest _ ih =>
    rw [List.cons_append, List.append_assoc, List.cons_append]
    exact .paired hc hinner hd hsame ih

/-! ### What one visitor hears -/

/-- The number of entries that are still open after a word of events, given how many were open
before it. There is none if a leaving finds nothing open. -/
def depthAfter : Nat → List Event → Option Nat
  | d, [] => some d
  | d, .enter _ :: word => depthAfter (d + 1) word
  | 0, .leave :: _ => none
  | d + 1, .leave :: word => depthAfter d word

/-- A word of events is balanced if each leaving closes an entry and no entry stays open. -/
def Balanced (word : List Event) : Prop :=
  depthAfter 0 word = some 0

instance (word : List Event) : Decidable (Balanced word) :=
  inferInstanceAs (Decidable (depthAfter 0 word = some 0))

/-- The events of which a visitor is told, without the entries that it prunes. -/
def heard [DecidableEq ι] (x : ι) (calls : List (Call ι σ)) : List Event :=
  ((calls.filter fun c => c.receiver = x).filter fun c => !c.prunes).map Call.event

section Heard

variable [DecidableEq ι]

theorem heard_append (x : ι) (l l' : List (Call ι σ)) :
    heard x (l ++ l') = heard x l ++ heard x l' := by
  simp [heard]

theorem heard_cons_of_ne {x : ι} {c : Call ι σ} (hc : c.receiver ≠ x) (l : List (Call ι σ)) :
    heard x (c :: l) = heard x l := by
  simp [heard, hc]

theorem heard_cons_of_prunes {x : ι} {c : Call ι σ} (hc : c.prunes) (l : List (Call ι σ)) :
    heard x (c :: l) = heard x l := by
  by_cases hx : c.receiver = x <;> simp [heard, hc, hx]

theorem heard_cons_of_not_prunes {c : Call ι σ} (hc : c.prunes = false) (l : List (Call ι σ)) :
    heard c.receiver (c :: l) = c.event :: heard c.receiver l := by
  simp [heard, hc]

/-- What a visitor hears in a well-nested sequence leaves the depth as it was. -/
theorem WellNested.depthAfter_heard {calls : List (Call ι σ)} (hcalls : WellNested calls) (x : ι)
    (d : Nat) (word : List Event) : depthAfter d (heard x calls ++ word) = depthAfter d word := by
  induction hcalls generalizing d word with
  | nil => rfl
  | pruned hc hrest ih =>
    rw [heard_cons_of_prunes hc]
    exact ih d word
  | @paired c e inner rest hc hinner he hsame hrest ihinner ihrest =>
    obtain ⟨n, j, hevent, -⟩ := Call.opens_iff.1 hc
    by_cases hx : c.receiver = x
    · -- the visitor hears both the entry and the leaving: one up, one down
      subst hx
      have hrest' : heard c.receiver (e :: rest) = .leave :: heard c.receiver rest := by
        rw [← hsame, heard_cons_of_not_prunes (Call.prunes_eq_false_of_isLeave he),
          Call.isLeave_iff.1 he]
      have hword : heard c.receiver (c :: (inner ++ e :: rest)) =
          .enter n :: (heard c.receiver inner ++ .leave :: heard c.receiver rest) := by
        rw [heard_cons_of_not_prunes (Call.prunes_eq_false_of_opens hc), heard_append, hrest',
          hevent]
      calc depthAfter d (heard c.receiver (c :: (inner ++ e :: rest)) ++ word)
          = depthAfter (d + 1)
              (heard c.receiver inner ++ .leave :: (heard c.receiver rest ++ word)) := by
            rw [hword, List.cons_append, List.append_assoc, List.cons_append, depthAfter]
        _ = depthAfter (d + 1) (.leave :: (heard c.receiver rest ++ word)) := ihinner _ _
        _ = depthAfter d (heard c.receiver rest ++ word) := by rw [depthAfter]
        _ = depthAfter d word := ihrest _ _
    · have hx' : e.receiver ≠ x := hsame ▸ hx
      rw [heard_cons_of_ne hx, heard_append, heard_cons_of_ne hx', List.append_assoc, ihinner,
        ihrest]

theorem WellNested.balanced_heard {calls : List (Call ι σ)} (hcalls : WellNested calls) (x : ι) :
    Balanced (heard x calls) := by
  have := hcalls.depthAfter_heard x 0 []
  rwa [List.append_nil] at this

end Heard

/-! ### Paired trails -/

/-- The entries and leavings of a trail are paired. -/
structure Paired (trail : List (Path × Call ι σ)) : Prop where
  /-- An entry that is answered with a visitor is closed by one leaving, later and told to the
  same visitor. Between the two are exactly the calls at the occurrences below. -/
  closed : ∀ p c, (p, c) ∈ trail → c.opens → ∃ before inner d later,
    trail = before ++ (p, c) :: (inner ++ (p, d) :: later) ∧ d.isLeave ∧
      d.receiver = c.receiver ∧ WellNested (inner.map Prod.snd) ∧
      (∀ y ∈ inner, p <+: y.1 ∧ y.1 ≠ p) ∧ ∀ y ∈ before ++ later, ¬ p <+: y.1
  /-- A pruned entry is not closed, and nothing is heard of what is below. -/
  pruned : ∀ p c, (p, c) ∈ trail → c.prunes → ∃ before later,
    trail = before ++ (p, c) :: later ∧ ∀ y ∈ before ++ later, ¬ p <+: y.1
  /-- A leaving closes an entry. -/
  entered : ∀ p d, (p, d) ∈ trail → d.isLeave →
    ∃ c, (p, c) ∈ trail ∧ c.opens ∧ c.receiver = d.receiver

section Runs

variable {w : Walker} {v : Visitor ι σ}

mutual

theorem Tree.Runs.wellNested {p : Path} {i : ι} {t : Tree} {s : σ} {r : Run ι σ}
    (hr : t.Runs w v p i s r) (hok : r.result = .ok ()) : WellNested (r.trail.map Prod.snd) := by
  cases hr with
  | pruned henter => exact .pruned (Call.prunes_iff.2 ⟨_, rfl, henter⟩) .nil
  | refused henter => cases hok
  | left henter hbelow =>
    rw [List.map_cons, List.map_append]
    exact .paired (Visitor.opens_call henter) (hbelow.wellNested rfl) rfl rfl .nil
  | broken henter hbelow => cases hok

theorem Forest.Runs.wellNested {p : Path} {k : Nat} {j : ι} {f : Forest} {s : σ} {r : Run ι σ}
    (hr : f.Runs w v p k j s r) (hok : r.result = .ok ()) :
    WellNested (r.trail.map Prod.snd) := by
  cases hr with
  | nil => exact .nil
  | cons hfirst hrest =>
    rw [List.map_append]
    exact (hfirst.wellNested rfl).append (hrest.wellNested hok)
  | stop hfirst => cases hok

end

/-- An entry that is answered with a visitor, in a run that succeeds. -/
theorem Tree.Runs.trail_of_answer_eq_some {p : Path} {i j : ι} {t : Tree} {s : σ} {r : Run ι σ}
    (hr : t.Runs w v p i s r) (hok : r.result = .ok ())
    (hanswer : (v.call i (.enter t.handle) s).answer = some j) :
    ∃ inner d, r.trail = (p, v.call i (.enter t.handle) s) :: (inner ++ [(p, d)]) ∧ d.isLeave ∧
      d.receiver = i ∧ WellNested (inner.map Prod.snd) ∧ ∀ y ∈ inner, p <+: y.1 ∧ y.1 ≠ p := by
  cases hr with
  | pruned henter => cases henter.symm.trans hanswer
  | refused henter => cases hok
  | left henter hbelow =>
    refine ⟨_, _, rfl, rfl, rfl, hbelow.wellNested rfl, fun y hy => ?_⟩
    obtain ⟨m, -, hm⟩ := hbelow.prefix_of_mem y hy
    exact ⟨(List.prefix_append p [m]).trans hm,
      fun hyp => not_prefix_of_below hm (hyp ▸ List.prefix_refl p)⟩
  | broken henter hbelow => cases hok

end Runs

namespace Walker

theorem paired_trail {w : Walker} {v : Visitor ι σ} {i : ι} {h : Handle} {s : σ}
    (hok : (w.run v i h s).result = .ok ()) : Paired (w.trail v i h s) where
  closed p c hc hopens := by
    obtain ⟨n, j, hevent, hanswer⟩ := Call.opens_iff.1 hopens
    obtain ⟨n', part, -, hcall, hruns, hpart⟩ :=
      hasPart_of_mem_trail hc (Call.isLeave_eq_false_iff.2 ⟨n, hevent⟩)
    -- the part at the entry succeeds, so it ends with the leaving of the occurrence
    have hpartOk := hpart.result_eq_ok hok
    rw [hcall, ← w.handle_unfold n'] at hanswer
    obtain ⟨inner, d, htrail, hd, hreceiver, hnested, hinner⟩ :=
      hruns.trail_of_answer_eq_some hpartOk hanswer
    obtain ⟨before, later, hsplit, hothers, -⟩ := hpart
    rw [w.handle_unfold, ← hcall] at htrail
    refine ⟨before, inner, d, later, ?_, hd, hreceiver, hnested, hinner, hothers⟩
    rw [trail, hsplit, htrail]
    simp
  pruned p c hc hprunes := alone_of_prunes hc hprunes
  entered p d hd hleave := (w.runs v i h s).exists_opens_of_leave (p, d) hd hleave

/-- **Entering and leaving are well nested.** If a walk succeeds, then its calls are well nested:
an entry that is answered with a visitor is closed by exactly one leaving, told to the visitor
that was told of the entry, and between the two lie exactly the calls at the occurrences below;
pruned entries are not closed, and nothing else is. What a single visitor hears, without the
entries that it pruned, is a balanced word. -/
theorem wellNested_of_walk_ok [DecidableEq ι] (w : Walker) (v : Visitor ι σ) (i : ι) (h : Handle)
    (s : σ) (hok : ((w.walk v i h).run.run s).1 = .ok ()) :
    WellNested (w.calls v i h s) ∧
    w.Places h (w.calls v i h s) (w.trail v i h s) ∧
    Paired (w.trail v i h s) ∧
    ∀ x, Balanced (heard x (w.calls v i h s)) := by
  rw [run_walk] at hok
  have hnested : WellNested (w.calls v i h s) := by
    rw [← map_snd_trail]
    exact (w.runs v i h s).wellNested hok
  exact ⟨hnested, w.places_trail v i h s, paired_trail hok, hnested.balanced_heard⟩

end Walker

/-! ### A clause with a hint -/

/-- A name, as a node of its own. -/
def Node.named (name : Ident) : Node .identifier :=
  .form (.cons (.inline (.atom name)) .nil)

/-- A stored name, as an operand of an expression. -/
def Content.operand (cell : Nat) (name : Ident) : Content .expr :=
  .ref cell .identifier rfl (Node.named name)

/-- A stored name, as what a field of a dialect node hands out. -/
def Part.operand (cell : Nat) (name : Ident) : Part :=
  .one (.ref cell .identifier rfl (Node.named name))

/-- A hint, which is a dialect node. It writes itself without what it holds. -/
def Node.hint (parts : Parts) : Node .dialect :=
  .dialect "hint" (.word "Hint \x7b .. \x7d") parts

/-- A stored hint, as an operand of an expression. -/
def Content.hint (cell : Nat) (parts : Parts) : Content .expr :=
  .ref cell .dialect rfl (Node.hint parts)

/-- The fields of a hint that holds a name. -/
def Parts.hinted : Parts :=
  .cons "name" (.operand 2 ⟨"a", none, ⟨0, 1⟩⟩) .nil

/-- A clause whose condition is a hint, which holds a name. -/
def Handle.hinted : Handle where
  place := .cell 0
  kind := .whereClause
  node := .form (.cons (.hint 1 .hinted) .nil)

/-- Two visitors that count their calls. Names are pruned, and what is below a dialect node is
shown to the second visitor. When a node is left, `answer` is given back. -/
def Visitor.relay (answer : Option Bool) : Visitor Bool Nat where
  visit i e := do
    modify (· + 1)
    match e with
    | .enter h => return if h.kind = .ident then none else some (i || h.kind = .dialect)
    | .leave => return answer

namespace Walker

/-- A walker that knows the dialect kind of the hint. -/
def hinting : Walker where
  registry := .ofEntries [("hint", ["name"])]

/-- The walk of the clause, in which a visitor is substituted and a name is pruned. -/
theorem wellNested_hinted :
    ((hinting.walk (.relay none) false .hinted).run.run 0).1 = .ok () ∧
    WellNested (hinting.calls (.relay none) false .hinted 0) ∧
    hinting.Places .hinted (hinting.calls (.relay none) false .hinted 0)
      (hinting.trail (.relay none) false .hinted 0) ∧
    Paired (hinting.trail (.relay none) false .hinted 0) ∧
    (∀ x, Balanced (heard x (hinting.calls (.relay none) false .hinted 0))) ∧
    ((hinting.trail (.relay none) false .hinted 0).map fun x =>
        (x.1, x.2.receiver, x.2.event.isLeave, x.2.answer)) =
      [([], false, false, some false), ([0], false, false, some true),
        ([0, 0], true, false, some true), ([0, 0, 0], true, false, none),
        ([0, 0], true, true, none), ([0], false, true, none), ([], false, true, none)] := by
  have hok : ((hinting.walk (.relay none) false .hinted).run.run 0).1 = .ok () := by cbv
  obtain ⟨hnested, hplaces, hpaired, hbalanced⟩ :=
    wellNested_of_walk_ok hinting (.relay none) false .hinted 0 hok
  exact ⟨hok, hnested, hplaces, hpaired, hbalanced, by cbv⟩

end Walker

end SqlTree
