import Mathlib
import SqlTree.Proofs.Walk.Failure
import SqlTree.Proofs.Walk.Transport

/-!
# What a walk reports

A walk reports where it is pruned and which dialect nodes it comes to. Every entry of the log goes
back to one call of a visitor and is made right after it, before any other call: the journal of a
walk is the list of its calls with each call replaced by what it gives rise to.

* `Walker.entryAfter` is the entry that a call gives rise to, `Walker.handedOn` the state in which
  the next call is then made.
* `HandsOn` says that a sequence of calls is made in one go, each in the state that the one before
  it hands on. `Tree.Runs.handsOn`: every run is such a sequence, whether it fails or not.
* `Walker.echo` says what a call gives rise to in the words of the log: the level, the message and
  the attributes of an entry.

Main statement: `Walker.journal_mirrors_calls`.
-/

set_option autoImplicit false

namespace SqlTree

variable {ι σ : Type}

/-! ### Entries and the calls that they follow -/

namespace Walker

/-- The entry of the log that is made right after a call. -/
def entryAfter (w : Walker) (c : Call ι σ) : Option LogEvent :=
  match c.event, c.answer with
  | .leave, _ => none
  | .enter n, none => some (.pruned n.kind)
  | .enter n, some _ => w.report n

/-- The state that a call hands on to the next one. -/
def handedOn (w : Walker) (v : Visitor ι σ) (c : Call ι σ) : σ :=
  match w.entryAfter c with
  | some entry => v.logged entry c.after
  | none => c.after

variable {w : Walker} {v : Visitor ι σ} {i j : ι} {h : Handle} {s : σ}

theorem handedOn_of_answer_eq_none (henter : (v.call i (.enter h) s).answer = none) :
    w.handedOn v (v.call i (.enter h) s) =
      v.logged (.pruned h.kind) (v.call i (.enter h) s).after := by
  have hentry : w.entryAfter (v.call i (.enter h) s) = some (.pruned h.kind) := by
    rw [entryAfter, henter]
    rfl
  rw [handedOn, hentry]

theorem handedOn_of_answer_eq_some (henter : (v.call i (.enter h) s).answer = some j) :
    w.handedOn v (v.call i (.enter h) s) = w.announced v h (v.call i (.enter h) s).after := by
  have hentry : w.entryAfter (v.call i (.enter h) s) = w.report h := by
    rw [entryAfter, henter]
    rfl
  rw [handedOn, hentry, announced, announce]
  cases w.report h <;> rfl

end Walker

/-! ### Calls that hand on their states -/

/-- The calls are made one after the other, from the first state to the last, each in the state
that the one before it hands on. -/
inductive HandsOn (w : Walker) (v : Visitor ι σ) : σ → List (Call ι σ) → σ → Prop
  | nil {s : σ} : HandsOn w v s [] s
  | cons {c : Call ι σ} {calls : List (Call ι σ)} {s t : σ} (hbefore : c.before = s)
      (hrest : HandsOn w v (w.handedOn v c) calls t) : HandsOn w v s (c :: calls) t

namespace HandsOn

variable {w : Walker} {v : Visitor ι σ} {s s' t : σ} {l l' : List (Call ι σ)}

theorem append (hl : HandsOn w v s l t) (hl' : HandsOn w v t l' s') :
    HandsOn w v s (l ++ l') s' := by
  induction hl with
  | nil => exact hl'
  | cons hbefore hrest ih => exact .cons hbefore (ih hl')

theorem split (hall : HandsOn w v s (l ++ l') s') :
    ∃ t, HandsOn w v s l t ∧ HandsOn w v t l' s' := by
  induction l generalizing s with
  | nil => exact ⟨s, .nil, hall⟩
  | cons c l ih =>
    cases hall with
    | cons hbefore hrest =>
      obtain ⟨t, hl, hl'⟩ := ih hrest
      exact ⟨t, .cons hbefore hl, hl'⟩

/-- The first state and the calls fix the last state. -/
theorem unique (hl : HandsOn w v s l t) (hl' : HandsOn w v s l s') : s' = t := by
  induction hl with
  | nil =>
    cases hl'
    rfl
  | cons hbefore hrest ih =>
    cases hl' with
    | cons hbefore' hrest' => exact ih hrest'

/-- The first call is made in the first state. If there is no call, then the first state is the
last. -/
theorem start_eq (hl : HandsOn w v s l t) : s = (l.head?.map Call.before).getD t := by
  cases hl with
  | nil => rfl
  | cons hbefore hrest => exact hbefore.symm

end HandsOn

section Runs

variable {w : Walker} {v : Visitor ι σ}

/-- An entry hands on the state in which the children are shown, and the calls below follow. -/
theorem HandsOn.enter {i j : ι} {h : Handle} {s t : σ} {calls : List (Call ι σ)}
    (henter : (v.call i (.enter h) s).answer = some j)
    (hbelow : HandsOn w v (w.announced v h (v.call i (.enter h) s).after) calls t) :
    HandsOn w v s (v.call i (.enter h) s :: calls) t := by
  rw [← Walker.handedOn_of_answer_eq_some henter] at hbelow
  exact .cons rfl hbelow

mutual

/-- **The calls of a run hand on their states**, from the state in which the run starts to the one
in which it ends. -/
theorem Tree.Runs.handsOn {p : Path} {i : ι} {t : Tree} {s : σ} {r : Run ι σ}
    (hr : t.Runs w v p i s r) : HandsOn w v s (r.trail.map Prod.snd) r.state := by
  cases hr with
  | pruned henter =>
    rw [← Walker.handedOn_of_answer_eq_none (w := w) henter]
    exact .cons rfl .nil
  | refused henter => exact .enter henter .nil
  | @left p i j h below s s' trail henter hbelow =>
    -- leaving is not reported, so it hands on its own state
    have hleave : HandsOn w v s' [v.call i .leave s'] (v.call i .leave s').after := .cons rfl .nil
    have hinner := hbelow.handsOn.append hleave
    rw [List.map_cons, List.map_append]
    exact .enter henter hinner
  | broken henter hbelow => exact .enter henter hbelow.handsOn

theorem Forest.Runs.handsOn {p : Path} {k : Nat} {j : ι} {f : Forest} {s : σ} {r : Run ι σ}
    (hr : f.Runs w v p k j s r) : HandsOn w v s (r.trail.map Prod.snd) r.state := by
  cases hr with
  | nil => exact .nil
  | cons hfirst hrest =>
    have hall := hfirst.handsOn.append hrest.handsOn
    rwa [← List.map_append] at hall
  | stop hfirst => exact hfirst.handsOn

end

end Runs

/-! ### The journal follows the calls -/

section Journal

variable {w : Walker} {v : Visitor ι σ}

/-- Only what is reported comes into the journal. -/
theorem Walker.snd_handedOn_journaled (w : Walker) (v : Visitor ι σ) (i : ι) (e : Event)
    (t : σ × List LogEvent) :
    (w.handedOn v.journaled (v.journaled.call i e t)).2 =
      t.2 ++ (w.entryAfter (v.journaled.call i e t)).toList := by
  rw [Walker.handedOn]
  cases w.entryAfter (v.journaled.call i e t) with
  | none => exact (List.append_nil t.2).symm
  | some entry => rfl

/-- Along calls of visitors that keep a journal, the journal grows by what the calls give rise
to. -/
theorem HandsOn.snd_journaled {t t' : σ × List LogEvent}
    {calls : List (Call ι (σ × List LogEvent))} (hcalls : HandsOn w v.journaled t calls t')
    (hown : ∀ c ∈ calls, c = v.journaled.call c.receiver c.event c.before) :
    t'.2 = t.2 ++ calls.filterMap w.entryAfter := by
  induction hcalls with
  | nil => exact (List.append_nil _).symm
  | @cons c calls t t' hbefore hrest ih =>
    subst hbefore
    have hfirst := w.snd_handedOn_journaled v c.receiver c.event c.before
    rw [← hown c List.mem_cons_self] at hfirst
    rw [ih fun d hd => hown d (List.mem_cons_of_mem c hd), hfirst, List.append_assoc]
    cases hentry : w.entryAfter c <;> simp [hentry]

end Journal

namespace Walker

variable (w : Walker) (v : Visitor ι σ) (i : ι) (h : Handle) (s : σ)

/-- With their journal set aside, the visitors are called as before. -/
theorem calls_journaled :
    w.calls v i h s = (w.calls v.journaled i h (s, [])).map (Call.map Prod.fst) := by
  have hruns := (w.runs v.journaled i h (s, [])).transport v.carries_journaled
  rw [calls_eq_of_runs hruns, calls_eq_of_runs (w.runs v.journaled i h (s, [])), Run.map,
    List.map_map, List.map_map]
  rfl

/-- The calls of a walk are calls of its visitors, and hand on their states from the start of the
walk to its end. -/
theorem handsOn_calls :
    HandsOn w v s (w.calls v i h s) (w.run v i h s).state ∧
      ∀ c ∈ w.calls v i h s, c = v.call c.receiver c.event c.before := by
  have hruns := w.runs v i h s
  rw [calls_eq_of_runs hruns]
  refine ⟨hruns.handsOn, fun c hc => ?_⟩
  obtain ⟨x, hx, rfl⟩ := List.mem_map.1 hc
  exact hruns.eq_call_of_mem x hx

/-- At every call, the journal holds what the calls before it have given rise to. -/
theorem snd_before_of_calls {before later : List (Call ι (σ × List LogEvent))}
    {c : Call ι (σ × List LogEvent)}
    (hsplit : w.calls v.journaled i h (s, []) = before ++ c :: later) :
    c.before.2 = before.filterMap w.entryAfter := by
  obtain ⟨hall, hown⟩ := w.handsOn_calls v.journaled i h (s, [])
  rw [hsplit] at hall hown
  obtain ⟨t, hbefore, hlater⟩ := hall.split
  have hjournal := hbefore.snd_journaled fun d hd => hown d (List.mem_append_left _ hd)
  cases hlater with
  | cons hstart hrest =>
    rw [hstart, hjournal]
    rfl

/-- **The journal is the list of the calls, each replaced by what it gives rise to.** -/
theorem journal_eq_filterMap : w.journal v i h s = (w.calls v i h s).filterMap w.entryAfter := by
  obtain ⟨hall, hown⟩ := w.handsOn_calls v.journaled i h (s, [])
  have hjournal := hall.snd_journaled hown
  -- what a call gives rise to does not depend on the journal that is kept beside the state
  rw [journal, run_walk, hjournal, w.calls_journaled v i h s, List.filterMap_map]
  rfl

end Walker

/-! ### Errors in the journal -/

/-- What is reported as an error is that a dialect kind has no row. -/
theorem LogEvent.level_eq_error_iff {entry : LogEvent} :
    entry.level = .error ↔ ∃ kind, entry = .unregistered kind := by
  cases entry <;> simp [LogEvent.level]

namespace Walker

variable {w : Walker} {v : Visitor ι σ} {i : ι} {h : Handle} {s : σ}

theorem report_eq_unregistered_iff {n : Handle} {kind : String} :
    w.report n = some (.unregistered kind) ↔
      n.dialectKind? = some kind ∧ w.registry.childOrder kind = none := by
  rw [report]
  cases n.dialectKind? with
  | none => simp
  | some kind' =>
    cases hrow : w.registry.childOrder kind' with
    | none =>
      simp only [hrow, Option.some.injEq, LogEvent.unregistered.injEq]
      exact ⟨fun hkind => ⟨hkind, hkind ▸ hrow⟩, And.left⟩
    | some order =>
      simp only [hrow, Option.some.injEq, reduceCtorEq, false_iff]
      rintro ⟨rfl, hnone⟩
      cases hrow.symm.trans hnone

/-- Such a report is made after a refused entry, and after nothing else. -/
theorem entryAfter_eq_unregistered_iff {c : Call ι σ} {kind : String} :
    w.entryAfter c = some (.unregistered kind) ↔ w.Refuses kind c := by
  rw [entryAfter, Refuses]
  cases c.event with
  | leave => simp
  | enter n =>
    cases c.answer with
    | none => simp
    | some j => simp [report_eq_unregistered_iff]

/-- An error in the journal is the failure of the walk. -/
theorem result_of_mem_journal {entry : LogEvent} (hentry : entry ∈ w.journal v i h s)
    (hlevel : entry.level = .error) :
    ∃ kind, entry = .unregistered kind ∧
      (w.run v i h s).result = .error (.unregistered kind) := by
  obtain ⟨kind, rfl⟩ := LogEvent.level_eq_error_iff.1 hlevel
  rw [journal_eq_filterMap, List.mem_filterMap] at hentry
  obtain ⟨c, hc, hcentry⟩ := hentry
  rw [← map_snd_trail] at hc
  obtain ⟨⟨p, c⟩, hpc, rfl⟩ := List.mem_map.1 hc
  obtain ⟨-, -, -, hresult, -⟩ :=
    eq_append_of_refuses hpc (entryAfter_eq_unregistered_iff.1 hcentry)
  exact ⟨kind, rfl, hresult⟩

/-- The failure of a walk is reported at the very end, and it is the only error. -/
theorem journal_eq_append_of_error {kind : String}
    (he : (w.run v i h s).result = .error (.unregistered kind)) :
    ∃ earlier, w.journal v i h s = earlier ++ [.unregistered kind] ∧
      ∀ other ∈ earlier, other.level ≠ .error := by
  obtain ⟨p, c, hc, hrefuses, -⟩ := exists_refuses he
  obtain ⟨before, htrail, hothers, -, -⟩ := eq_append_of_refuses hc hrefuses
  have hlast : w.entryAfter c = some (.unregistered kind) :=
    entryAfter_eq_unregistered_iff.2 hrefuses
  refine ⟨(before.map Prod.snd).filterMap w.entryAfter, ?_, fun other hother hlevel => ?_⟩
  · rw [journal_eq_filterMap, ← map_snd_trail, htrail, List.map_append, List.filterMap_append]
    simp [hlast]
  · -- another error would be the report of another refused entry, which ends the trail too
    obtain ⟨kind', rfl⟩ := LogEvent.level_eq_error_iff.1 hlevel
    obtain ⟨d, hd, hdentry⟩ := List.mem_filterMap.1 hother
    obtain ⟨⟨q, d⟩, hqd, rfl⟩ := List.mem_map.1 hd
    have hmem : (q, d) ∈ w.trail v i h s := htrail ▸ List.mem_append_left _ hqd
    obtain ⟨before', htrail', -, -, -⟩ :=
      eq_append_of_refuses hmem (entryAfter_eq_unregistered_iff.1 hdentry)
    obtain ⟨-, heq⟩ := List.append_inj' (htrail.symm.trans htrail') rfl
    cases heq
    exact hothers (p, c) hqd (List.prefix_refl p)

end Walker

/-! ### The words of the log -/

/-- An entry of the log as it is written: its level, its message and its attributes. -/
def LogEvent.written (entry : LogEvent) : Level × String × List (String × String) :=
  (entry.level, entry.message, entry.attributes)

namespace Walker

/-- What a call gives rise to, in the words of the log. A pruned entry is reported with the kind of
the node. An entry of a dialect node that is to be descended into is reported with its kind and
with the length of its row, or as an error if there is no row. Nothing else is reported. -/
def echo (w : Walker) (c : Call ι σ) : List (Level × String × List (String × String)) :=
  match c.event, c.answer with
  | .leave, _ => []
  | .enter n, none => [(.trace, "Pruned subtree", [("kind", n.kind.name)])]
  | .enter n, some _ =>
    match n.dialectKind? with
    | none => []
    | some kind =>
      match w.registry.childOrder kind with
      | some order =>
        [(.trace, "Dispatching dialect node",
          [("kind", kind), ("fields", toString order.length)])]
      | none => [(.error, "Dialect node kind has no registered child order", [("kind", kind)])]

theorem map_written_entryAfter (w : Walker) (c : Call ι σ) :
    (w.entryAfter c).toList.map LogEvent.written = w.echo c := by
  rw [entryAfter, echo]
  cases c.event with
  | leave => rfl
  | enter n =>
    cases c.answer with
    | none => rfl
    | some j =>
      simp only [report]
      cases n.dialectKind? with
      | none => rfl
      | some kind =>
        cases hrow : w.registry.childOrder kind with
        | none =>
          simp only [hrow]
          rfl
        | some order =>
          simp only [hrow]
          rfl

theorem map_written_filterMap (w : Walker) (calls : List (Call ι σ)) :
    (calls.filterMap w.entryAfter).map LogEvent.written = calls.flatMap w.echo := by
  induction calls with
  | nil => rfl
  | cons c calls ih =>
    have hecho := w.map_written_entryAfter c
    rw [List.flatMap_cons, ← hecho, ← ih]
    cases hentry : w.entryAfter c <;> simp [hentry]

/-- **The journal mirrors the calls.** What a walk reports is read off its calls, in order, and each
entry is made before the next call. A walk fails exactly if it reports an error; this names the
kind of the failure, is the last entry of the journal, and is the only error in it. -/
theorem journal_mirrors_calls (w : Walker) (v : Visitor ι σ) (i : ι) (h : Handle) (s : σ) :
    (w.journal v i h s).map LogEvent.written = (w.calls v i h s).flatMap w.echo ∧
    (∀ before c later, w.calls v.journaled i h (s, []) = before ++ c :: later →
      c.before.2.map LogEvent.written = before.flatMap w.echo) ∧
    ((∃ e, ((w.walk v i h).run.run s).1 = .error e) ↔
      ∃ entry ∈ w.journal v i h s, entry.level = .error) ∧
    (∀ e, ((w.walk v i h).run.run s).1 = .error e →
      ∃ earlier, w.journal v i h s = earlier ++ [.unregistered e.kind] ∧
        ∀ other ∈ earlier, other.level ≠ .error) := by
  rw [run_walk]
  refine ⟨?_, fun before c later hsplit => ?_, ⟨?_, ?_⟩, ?_⟩
  · rw [journal_eq_filterMap, map_written_filterMap]
  · rw [w.snd_before_of_calls v i h s hsplit, map_written_filterMap]
  · rintro ⟨⟨kind⟩, he⟩
    obtain ⟨earlier, hjournal, -⟩ := journal_eq_append_of_error he
    exact ⟨.unregistered kind, by simp [hjournal], rfl⟩
  · rintro ⟨entry, hentry, hlevel⟩
    obtain ⟨kind, -, hresult⟩ := result_of_mem_journal hentry hlevel
    exact ⟨.unregistered kind, hresult⟩
  · rintro ⟨kind⟩ he
    exact journal_eq_append_of_error he

end Walker

/-- A name that is looked for in a list with one item, a hint. The hint holds the name too, and may
have other fields. -/
def Handle.listed (name : Ident) (negated : Bool) (others : Parts) : Handle where
  place := .cell 0
  kind := .inList
  node :=
    .form (.cons (.operand 1 name) (.cons (.list 0 (.cons
      (.hint 2 (.cons "name" (.operand 1 name) others)) .nil)) (.cons (.flag negated) .nil)))

namespace Walker

/-- A name in a list whose item is a dialect node without a row: the name is pruned, and at the
dialect node the walk fails. -/
theorem journal_listed :
    let h : Handle := .listed ⟨"a", none, ⟨0, 1⟩⟩ false .nil
    let v : Visitor Bool Nat := .relay none
    ((({} : Walker).walk v false h).run.run 0).1 = .error (.unregistered "hint") ∧
    ({} : Walker).journal v false h 0 = [.pruned .ident, .unregistered "hint"] ∧
    (∃ earlier, ({} : Walker).journal v false h 0 = earlier ++ [.unregistered "hint"] ∧
      ∀ other ∈ earlier, other.level ≠ .error) ∧
    ∃ before c later, ({} : Walker).calls v.journaled false h (0, []) = before ++ c :: later ∧
      before.length = 3 ∧
      c.before.2.map LogEvent.written = before.flatMap ({} : Walker).echo := by
  intro h v
  have he : ((({} : Walker).walk v false h).run.run 0).1 = .error (.unregistered "hint") := by cbv
  have hlength : (({} : Walker).calls v.journaled false h (0, [])).length = 5 := by cbv
  obtain ⟨-, htimely, -, hlast⟩ := journal_mirrors_calls {} v false h 0
  have hsplit := List.take_append_drop 3 (({} : Walker).calls v.journaled false h (0, []))
  rw [List.drop_eq_getElem_cons (by omega)] at hsplit
  exact ⟨he, by cbv, hlast _ he, _, _, _, hsplit.symm, by simp [hlength],
    htimely _ _ _ hsplit.symm⟩

end Walker

end SqlTree
