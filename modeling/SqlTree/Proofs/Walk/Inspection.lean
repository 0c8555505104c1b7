import Mathlib
import SqlTree.Proofs.Walk.Order
import SqlTree.Proofs.Walk.Transport

/-!
# What an inspection asks

An inspection walks a tree as far down as a predicate holds. The predicate may have a state, so
what it answers may depend on all that it was asked before. What can be seen of an inspection are
the questions: which node was asked about, what the answer was, and the state of the predicate
before and after. `Walker.questions` reads them off a predicate that notes them while the
inspection itself runs.

* `Walker.asked` adds to each question the path of the occurrence that it is about.
* `Exposed` says of an occurrence that all its proper ancestors were answered with true.
* `Walker.ncard_asked`: counting questions is counting paths.

Main statement: `Walker.questions_of_inspect_ok`.
-/

set_option autoImplicit false

namespace SqlTree

variable {σ : Type}

/-! ### Questions -/

/-- A question that is put to a predicate. -/
structure Question (σ : Type) where
  /-- The node that is asked about. -/
  node : Handle
  answer : Bool
  /-- The state of the predicate before the question. -/
  before : σ
  /-- The state of the predicate after the question. -/
  after : σ

/-- The question about a node, put to a predicate in a given state. -/
def Question.put (predicate : Handle → StateM σ Bool) (n : Handle) (s : σ) : Question σ where
  node := n
  answer := ((predicate n).run s).1
  before := s
  after := ((predicate n).run s).2

/-- The predicate together with a record of the questions that are put to it. -/
def noted (predicate : Handle → StateM σ Bool) (n : Handle) :
    StateM (σ × List (Question σ)) Bool := fun (s, record) =>
  let q := Question.put predicate n s
  (q.answer, q.after, record ++ [q])

/-- A log that leaves the record alone. -/
def notedLog (log : LogEvent → StateM σ Unit) (entry : LogEvent) :
    StateM (σ × List (Question σ)) Unit := fun (s, record) =>
  ((), ((log entry).run s).2, record)

/-- The questions that an inspection puts to its predicate, in order. -/
def Walker.questions (w : Walker) (predicate : Handle → StateM σ Bool)
    (log : LogEvent → StateM σ Unit) (h : Handle) (s : σ) : List (Question σ) :=
  ((w.inspect (noted predicate) h (notedLog log)).run.run (s, [])).2.2

/-! ### Questions are entries -/

/-- The question in a call of an inspection. Leaving a node asks nothing. -/
def Call.question? (c : Call Unit σ) : Option (Question σ) :=
  match c.event with
  | .enter n => some ⟨n, c.answer.isSome, c.before, c.after⟩
  | .leave => none

/-- The questions in a trail, each with the path of its occurrence. -/
def askedIn (trail : List (Path × Call Unit σ)) : List (Path × Question σ) :=
  trail.filterMap fun x => x.2.question?.map (x.1, ·)

/-- The questions of an inspection, each with the path of its occurrence. -/
def Walker.asked (w : Walker) (predicate : Handle → StateM σ Bool)
    (log : LogEvent → StateM σ Unit) (h : Handle) (s : σ) : List (Path × Question σ) :=
  askedIn (w.trail (.inspector predicate log) () h s)

theorem Call.question?_eq_some_iff {c : Call Unit σ} {q : Question σ} :
    c.question? = some q ↔ c.event = .enter q.node ∧ q = ⟨q.node, c.answer.isSome, c.before,
      c.after⟩ := by
  rw [question?]
  cases c.event with
  | leave => simp
  | enter n =>
    constructor
    · rintro ⟨⟩
      exact ⟨rfl, rfl⟩
    · rintro ⟨hn, hq⟩
      cases hn
      rw [hq]

/-- A call of an inspection that enters a node puts the question about it. -/
theorem Visitor.question?_call_enter (predicate : Handle → StateM σ Bool)
    (log : LogEvent → StateM σ Unit) (n : Handle) (s : σ) :
    ((Visitor.inspector predicate log).call () (.enter n) s).question? =
      some (.put predicate n s) := by
  have hanswer : ((Visitor.inspector predicate log).call () (.enter n) s).answer =
      if ((predicate n).run s).1 then some () else none := rfl
  refine Call.question?_eq_some_iff.2 ⟨rfl, ?_⟩
  rw [hanswer, Question.put]
  cases ((predicate n).run s).1 <;> rfl

theorem mem_askedIn {trail : List (Path × Call Unit σ)} {p : Path} {q : Question σ} :
    (p, q) ∈ askedIn trail ↔ ∃ c, (p, c) ∈ trail ∧ c.question? = some q := by
  rw [askedIn, List.mem_filterMap]
  constructor
  · rintro ⟨⟨p', c⟩, hc, hq⟩
    obtain ⟨q', hq', hpq⟩ := Option.map_eq_some_iff.1 hq
    cases hpq
    exact ⟨c, hc, hq'⟩
  · rintro ⟨c, hc, hq⟩
    exact ⟨(p, c), hc, by simp [hq]⟩

/-- The paths of the questions are the paths of the entries. -/
theorem map_fst_askedIn (trail : List (Path × Call Unit σ)) :
    (askedIn trail).map Prod.fst = entered trail := by
  induction trail with
  | nil => rfl
  | cons x trail ih =>
    obtain ⟨p, c⟩ := x
    rw [askedIn] at ih ⊢
    rw [entered] at ih ⊢
    cases hevent : c.event with
    | leave => simpa [Call.question?, Call.isLeave, hevent, Event.isLeave] using ih
    | enter n => simpa [Call.question?, Call.isLeave, hevent, Event.isLeave] using ih

theorem map_snd_askedIn (trail : List (Path × Call Unit σ)) :
    (askedIn trail).map Prod.snd = (trail.map Prod.snd).filterMap Call.question? := by
  rw [askedIn, List.map_filterMap, List.filterMap_map]
  refine List.filterMap_congr fun x _ => ?_
  simp [Function.comp_def]

/-- An opened occurrence was answered with true. -/
theorem exists_opens_iff {trail : List (Path × Call Unit σ)} {p : Path} :
    (∃ c, (p, c) ∈ trail ∧ c.opens) ↔ ∃ q, (p, q) ∈ askedIn trail ∧ q.answer = true := by
  constructor
  · rintro ⟨c, hc, hopens⟩
    obtain ⟨n, j, hevent, hanswer⟩ := Call.opens_iff.1 hopens
    refine ⟨⟨n, c.answer.isSome, c.before, c.after⟩, mem_askedIn.2 ⟨c, hc, ?_⟩, by simp [hanswer]⟩
    exact Call.question?_eq_some_iff.2 ⟨hevent, rfl⟩
  · rintro ⟨q, hq, htrue⟩
    obtain ⟨c, hc, hcq⟩ := mem_askedIn.1 hq
    obtain ⟨hevent, hq'⟩ := Call.question?_eq_some_iff.1 hcq
    rw [hq'] at htrue
    obtain ⟨j, hanswer⟩ := Option.isSome_iff_exists.1 htrue
    exact ⟨c, hc, Call.opens_iff.2 ⟨_, j, hevent, hanswer⟩⟩

/-! ### The record of the predicate -/

/-- What a recorded inspection knows of its predicate is what the predicate itself notes. -/
theorem carries_noted (predicate : Handle → StateM σ Bool) (log : LogEvent → StateM σ Unit) :
    Visitor.Carries (fun x : σ × List (Call Unit σ) => (x.1, x.2.filterMap Call.question?))
      (Visitor.inspector predicate log).recorded
      (.inspector (noted predicate) (notedLog log)) where
  answer_eq i e s := by cases e <;> rfl
  after_eq i e s := by
    obtain ⟨s, calls⟩ := s
    cases e with
    | leave =>
      rw [Visitor.after_call_recorded, List.filterMap_append]
      exact Prod.ext rfl (List.append_nil _).symm
    | enter n =>
      have hq := Visitor.question?_call_enter predicate log n s
      rw [Visitor.after_call_recorded, List.filterMap_append, List.filterMap_cons_some hq]
      rfl
  logged_eq entry s := rfl

namespace Walker

variable (w : Walker) (predicate : Handle → StateM σ Bool) (log : LogEvent → StateM σ Unit)
  (h : Handle) (s : σ)

/-- The questions on the trail are the ones that the predicate notes. -/
theorem map_snd_asked :
    (w.asked predicate log h s).map Prod.snd = w.questions predicate log h s := by
  have hwalk := (carries_noted predicate log).run_walk (w := w) () h (s, [])
  rw [asked, map_snd_askedIn, map_snd_trail, questions, inspect]
  rw [List.filterMap_nil] at hwalk
  rw [hwalk]
  rfl

/-- Leaving a node asks nothing and changes nothing. -/
theorem after_eq_before_of_isLeave {c : Call Unit σ}
    (hc : c ∈ w.calls (.inspector predicate log) () h s) (hleave : c.isLeave) :
    c.after = c.before := by
  rw [← map_snd_trail] at hc
  obtain ⟨⟨p, c⟩, hpc, rfl⟩ := List.mem_map.1 hc
  have hcall := (w.runs (.inspector predicate log) () h s).eq_call_of_mem (p, c) hpc
  rw [Call.isLeave_iff.1 hleave] at hcall
  rw [hcall]
  rfl

/-! ### Occurrences that are asked about -/

/-- A path leads to a node, and all occurrences above it were answered with true. -/
def Exposed (w : Walker) (h : Handle) (asked : List (Path × Question σ)) (p : Path)
    (n : Handle) : Prop :=
  (w.descend p h).2 = .ok n ∧ ∀ a, a <+: p → a ≠ p → ∃ q, (a, q) ∈ asked ∧ q.answer = true

variable {w predicate log h s}

/-- An inspection that succeeds asks about the occurrences that are exposed, and no others. -/
theorem exists_asked_iff (hok : (w.run (.inspector predicate log) () h s).result = .ok ())
    {p : Path} {n : Handle} :
    (∃ q, (p, q) ∈ w.asked predicate log h s ∧ q.node = n) ↔
      w.Exposed h (w.asked predicate log h s) p n := by
  have hentry := exists_entry_iff hok (p := p) (n := n)
  simp only [exists_opens_iff] at hentry
  rw [Exposed, asked, ← hentry]
  constructor
  · rintro ⟨q, hq, rfl⟩
    obtain ⟨c, hc, hcq⟩ := mem_askedIn.1 hq
    exact ⟨c, hc, (Call.question?_eq_some_iff.1 hcq).1⟩
  · rintro ⟨c, hc, hevent⟩
    refine ⟨⟨n, c.answer.isSome, c.before, c.after⟩, mem_askedIn.2 ⟨c, hc, ?_⟩, rfl⟩
    exact Call.question?_eq_some_iff.2 ⟨hevent, rfl⟩

/-- The answers are those of the predicate. -/
theorem eq_put_of_mem_asked {p : Path} {q : Question σ}
    (hq : (p, q) ∈ w.asked predicate log h s) : q = .put predicate q.node q.before := by
  obtain ⟨c, hc, hcq⟩ := mem_askedIn.1 hq
  obtain ⟨hevent, hq'⟩ := Call.question?_eq_some_iff.1 hcq
  have hbefore : q.before = c.before := by rw [hq']
  have hcall : c = (Visitor.inspector predicate log).call () (.enter q.node) c.before := by
    rw [← hevent]
    exact (w.runs (.inspector predicate log) () h s).eq_call_of_mem (p, c) hc
  rw [hcall, Visitor.question?_call_enter] at hcq
  rw [hbefore]
  exact (Option.some.inj hcq).symm

/-- Questions come in strictly increasing order of their paths. -/
theorem increasing_asked (w : Walker) (predicate : Handle → StateM σ Bool)
    (log : LogEvent → StateM σ Unit) (h : Handle) (s : σ) :
    ((w.asked predicate log h s).map Prod.fst).Pairwise (· < ·) := by
  rw [asked, map_fst_askedIn]
  exact (w.runs (.inspector predicate log) () h s).increasing_entered

/-! ### Counting questions -/

/-- Counting questions is counting paths, since no path is asked about twice. -/
theorem ncard_asked (w : Walker) (predicate : Handle → StateM σ Bool)
    (log : LogEvent → StateM σ Unit) (h : Handle) (s : σ) (P : Question σ → Bool) :
    Set.ncard {p | ∃ q, (p, q) ∈ w.asked predicate log h s ∧ P q} =
      (w.questions predicate log h s).countP P := by
  classical
  have hnodup : ((w.asked predicate log h s).map Prod.fst).Nodup :=
    (increasing_asked w predicate log h s).imp ne_of_lt
  have hset : {p | ∃ q, (p, q) ∈ w.asked predicate log h s ∧ P q} =
      ↑(((w.asked predicate log h s).filter fun x => P x.2).map Prod.fst).toFinset := by
    ext p
    simp
  have hfiltered := hnodup.sublist
    ((List.filter_sublist (p := fun x => P x.2)).map (Prod.fst (β := Question σ)))
  rw [hset, Set.ncard_coe_finset, List.toFinset_card_of_nodup hfiltered, List.length_map,
    ← List.countP_eq_length_filter, ← map_snd_asked, List.countP_map]
  rfl

/-- A path that leads to a node is exposed if no answer above it is false. -/
theorem exposed_of_forall_above (hok : (w.run (.inspector predicate log) () h s).result = .ok ())
    {p : Path} {n : Handle} (hn : (w.descend p h).2 = .ok n)
    (habove : ∀ a q, a <+: p → a ≠ p → (a, q) ∈ w.asked predicate log h s → q.answer = true) :
    w.Exposed h (w.asked predicate log h s) p n := by
  refine ⟨hn, fun a ha hne => ?_⟩
  -- the ancestors are exposed one after the other, from the root down
  induction p using List.reverseRecOn generalizing n a with
  | nil => exact absurd (List.prefix_nil.1 ha) hne
  | append_singleton p k ih =>
    obtain ⟨m, cs, hm, -, -⟩ := descend_concat_eq_ok_iff.1 hn
    have hap : a <+: p := (List.prefix_concat_iff.1 ha).resolve_left hne
    have hparent : ∀ b, b <+: p → b ≠ p → ∃ q, (b, q) ∈ w.asked predicate log h s ∧
        q.answer = true := by
      refine ih hm fun b q hb _ hq => habove b q (hb.trans (List.prefix_append p [k])) ?_ hq
      rintro rfl
      exact not_prefix_of_below (List.prefix_refl (p ++ [k])) hb
    by_cases hlast : a = p
    · obtain ⟨q, hq, -⟩ := (exists_asked_iff hok).2 ⟨hm, hparent⟩
      exact ⟨q, hlast ▸ hq, habove p q (List.prefix_append p [k]) (by simp) hq⟩
    · exact hparent a hap hlast

/-- A predicate that always holds exposes all occurrences. -/
theorem exposed_iff_of_forall_true (hok : (w.run (.inspector predicate log) () h s).result = .ok ())
    (htrue : ∀ n t, ((predicate n).run t).1 = true) {p : Path} {n : Handle} :
    w.Exposed h (w.asked predicate log h s) p n ↔ (w.descend p h).2 = .ok n := by
  refine ⟨fun hexposed => hexposed.1, fun hn => exposed_of_forall_above hok hn ?_⟩
  intro a q _ _ hq
  rw [eq_put_of_mem_asked hq]
  exact htrue _ _

/-- A predicate that always holds is asked about all occurrences. -/
theorem exists_asked_iff_of_forall_true
    (hok : (w.run (.inspector predicate log) () h s).result = .ok ())
    (htrue : ∀ n t, ((predicate n).run t).1 = true) {p : Path} {n : Handle} :
    (∃ q, (p, q) ∈ w.asked predicate log h s ∧ q.node = n) ↔ (w.descend p h).2 = .ok n :=
  (exists_asked_iff hok).trans (exposed_iff_of_forall_true hok htrue)

/-! ### Inspections that succeed -/

/-- How the questions of an inspection are placed in the unfolding of the root. -/
structure Inspects (w : Walker) (predicate : Handle → StateM σ Bool)
    (log : LogEvent → StateM σ Unit) (h : Handle) (s : σ) : Prop where
  /-- The questions that are placed are the ones that the predicate notes. -/
  questions_eq : (w.asked predicate log h s).map Prod.snd = w.questions predicate log h s
  /-- They are answered by the predicate. -/
  answered : ∀ p q, (p, q) ∈ w.asked predicate log h s → q = .put predicate q.node q.before
  /-- An occurrence is asked about exactly if all its proper ancestors were answered with true. -/
  asked_iff : ∀ p n, (∃ q, (p, q) ∈ w.asked predicate log h s ∧ q.node = n) ↔
    w.Exposed h (w.asked predicate log h s) p n
  /-- Questions come in strictly increasing order of their paths, so none is put twice. -/
  increasing : ((w.asked predicate log h s).map Prod.fst).Pairwise (· < ·)
  /-- When a node is left, the record of the questions stays as it is. -/
  leaving : ∀ c ∈ w.calls (.inspector (noted predicate) (notedLog log)) () h (s, []), c.isLeave →
    c.after = c.before
  /-- A stored node is asked about once for every path on which it is exposed. -/
  shared : ∀ n, (w.questions predicate log h s).countP (·.node.same n) =
    Set.ncard {p | ∃ m, w.Exposed h (w.asked predicate log h s) p m ∧ m.same n}

/-- **What an inspection asks.** An inspection that succeeds asks its predicate exactly once about
each occurrence all of whose proper ancestors were answered with true, and about no other, in the
order of the paths, and never when a node is left. If the predicate always holds, then the number
of questions is the number of occurrences in the unfolding of the root. -/
theorem questions_of_inspect_ok (w : Walker) (predicate : Handle → StateM σ Bool)
    (log : LogEvent → StateM σ Unit) (h : Handle) (s : σ)
    (hok : ((w.inspect predicate h log).run.run s).1 = .ok ()) :
    w.Inspects predicate log h s ∧
    ((∀ n t, ((predicate n).run t).1 = true) →
      (w.questions predicate log h s).length = Set.ncard {p | ∃ n, (w.descend p h).2 = .ok n} ∧
      ∀ n, (w.questions predicate log h s).countP (·.node.same n) =
        Set.ncard {p | ∃ m, (w.descend p h).2 = .ok m ∧ m.same n}) := by
  rw [inspect, run_walk] at hok
  have hasked := fun p n => exists_asked_iff hok (p := p) (n := n)
  have hshared : ∀ P : Handle → Bool, (w.questions predicate log h s).countP (fun q => P q.node) =
      Set.ncard {p | ∃ m, w.Exposed h (w.asked predicate log h s) p m ∧ P m} := by
    intro P
    rw [← ncard_asked]
    congr 1
    ext p
    simp only [Set.mem_ofPred_eq, ← hasked]
    constructor
    · rintro ⟨q, hq, hP⟩
      exact ⟨q.node, ⟨q, hq, rfl⟩, hP⟩
    · rintro ⟨m, ⟨q, hq, rfl⟩, hP⟩
      exact ⟨q, hq, hP⟩
  refine ⟨⟨w.map_snd_asked predicate log h s, fun p q hq => eq_put_of_mem_asked hq, hasked,
    increasing_asked w predicate log h s, fun c hc hleave => ?_, fun n => hshared (·.same n)⟩,
    fun htrue => ⟨?_, fun n => ?_⟩⟩
  · exact w.after_eq_before_of_isLeave (noted predicate) (notedLog log) h (s, []) hc hleave
  · have hall := hshared fun _ => true
    simpa [exposed_iff_of_forall_true hok htrue] using hall
  · have hsame := hshared (·.same n)
    simpa only [exposed_iff_of_forall_true hok htrue] using hsame

end Walker

/-! ### Two inspections of a comparison -/

/-- A comparison of a stored name with itself: both operands are the same node. -/
def Handle.selfCompared : Handle where
  place := .cell 0
  kind := .binaryExpr
  node :=
    let name : Ident := ⟨"a", none, ⟨0, 1⟩⟩
    .form (.cons (.operand 1 name) (.cons (.inline (.atom .eq)) (.cons (.operand 1 name) .nil)))

/-- A predicate that counts how often it is asked, and holds up to the given number of times. -/
def holdsUpTo (times : Nat) (_ : Handle) : StateM Nat Bool := do
  modify (· + 1)
  return (← get) ≤ times

/-- A predicate that counts how often it is asked, and always holds. -/
def holdsAlways (_ : Handle) : StateM Nat Bool := do
  modify (· + 1)
  return true

/-- Two inspections of the comparison: one descends into the name on its first path only, the
other asks about all occurrences, and about the stored name twice. -/
theorem Walker.questions_selfCompared :
    (((({} : Walker).inspect (holdsUpTo 2) .selfCompared).run.run 0).1 = .ok () ∧
      ({} : Walker).Inspects (holdsUpTo 2) (fun _ => pure ()) .selfCompared 0) ∧
    ((({} : Walker).inspect holdsAlways .selfCompared).run.run 0).1 = .ok () ∧
    (∀ n t, ((holdsAlways n).run t).1 = true) ∧
    (({} : Walker).questions holdsAlways (fun _ => pure ()) .selfCompared 0).length =
      Set.ncard {p | ∃ n, (({} : Walker).descend p .selfCompared).2 = .ok n} ∧
    ((({} : Walker).asked (holdsUpTo 2) (fun _ => pure ()) .selfCompared 0).map fun x =>
        (x.1, x.2.answer)) =
      [([], true), ([0], true), ([0, 0], false), ([1], false), ([2], false)] ∧
    ((({} : Walker).asked holdsAlways (fun _ => pure ()) .selfCompared 0).map fun x =>
        (x.1, x.2.node.kind, x.2.node.place)) =
      [([], .binaryExpr, .cell 0), ([0], .identifier, .cell 1),
        ([0, 0], .ident, .field (.cell 1) "ident"), ([1], .operator, .field (.cell 0) "op"),
        ([2], .identifier, .cell 1), ([2, 0], .ident, .field (.cell 1) "ident")] := by
  have hpruned : ((({} : Walker).inspect (holdsUpTo 2) .selfCompared).run.run 0).1 = .ok () := by
    cbv
  have hfull : ((({} : Walker).inspect holdsAlways .selfCompared).run.run 0).1 = .ok () := by cbv
  have htrue : ∀ n t, ((holdsAlways n).run t).1 = true := fun _ _ => rfl
  exact ⟨⟨hpruned, (questions_of_inspect_ok {} (holdsUpTo 2) _ .selfCompared 0 hpruned).1⟩, hfull,
    htrue, ((questions_of_inspect_ok {} holdsAlways _ .selfCompared 0 hfull).2 htrue).1, by cbv,
    by cbv⟩

end SqlTree
