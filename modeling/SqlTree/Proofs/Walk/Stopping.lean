import Mathlib
import SqlTree.Proofs.Walk.Inspection
import SqlTree.Proofs.Walk.Journal

/-!
# Stopping an inspection

An inspection cannot be broken off. All that its predicate can do is to answer false from some
occurrence on, and then the inspection winds up: at each level that is open it still asks about
the children that are left, and it looks below none of them.

* `StopsAt` says that the answers are true before an occurrence, and false from there on.
* `Flanks` says which paths are asked about after that: a path that leaves the way down to the
  occurrence at some level, with a larger index.
* `exists_index_of_lt`: a path between another path and its child lies below the former. This
  turns the order of the questions into levels and indices.

Main statement: `Walker.windsUp_of_stopsAt`.
-/

set_option autoImplicit false

namespace SqlTree

variable {σ : Type}

/-! ### Paths that flank a path -/

/-- What is above a path precedes it. -/
theorem le_of_ancestor {a p : Path} (ha : a <+: p) : a ≤ p := by
  obtain ⟨x, rfl⟩ := ha
  cases x with
  | nil => exact le_of_eq (List.append_nil a).symm
  | cons k x => exact (lt_of_below (k := k) ⟨x, by simp⟩).le

/-- A path between another path and one of its children lies below the former. -/
theorem exists_index_of_lt {p q : Path} {j : Nat} (hqp : q < p) (hpj : p < q ++ [j]) :
    ∃ k, q ++ [k] <+: p ∧ k < j := by
  induction q generalizing p with
  | nil =>
    cases p with
    | nil => exact absurd hqp (lt_irrefl _)
    | cons k p =>
      rcases List.cons_lt_cons_iff.1 hpj with hk | ⟨-, hnil⟩
      · exact ⟨k, List.prefix_append [k] p, hk⟩
      · exact absurd hnil (List.not_lt_nil p)
  | cons b q ih =>
    cases p with
    | nil => exact absurd hqp (List.not_lt_nil _)
    | cons c p =>
      rw [List.cons_append, List.cons_lt_cons_iff] at hpj
      rw [List.cons_lt_cons_iff] at hqp
      -- neither path can leave the other at the first index
      obtain rfl : b = c := by omega
      obtain ⟨k, hk, hkj⟩ := ih (hqp.resolve_left (lt_irrefl b)).2
        (hpj.resolve_left (lt_irrefl b)).2
      exact ⟨k, List.cons_prefix_cons.2 ⟨rfl, hk⟩, hkj⟩

/-- `r` leaves the way down to `p` with its last index, which is larger than the one that `p`
takes there. -/
def Flanks (r p : Path) : Prop :=
  ∃ q j k, r = q ++ [j] ∧ q ++ [k] <+: p ∧ k < j

theorem Flanks.lt {r p : Path} (hr : Flanks r p) : p < r := by
  obtain ⟨q, j, k, rfl, hk, hkj⟩ := hr
  exact lt_of_index_lt hk (List.prefix_refl _) hkj

/-- Of two paths that flank a path, the deeper one comes first, and of two siblings the one with
the smaller index. -/
theorem Flanks.deeper_or_sibling {r r' p : Path} (hr : Flanks r p) (hr' : Flanks r' p)
    (hlt : r < r') :
    r'.length < r.length ∨ ∃ q j j', r = q ++ [j] ∧ r' = q ++ [j'] ∧ j < j' := by
  obtain ⟨q, j, k, rfl, hk, hkj⟩ := hr
  obtain ⟨q', j', k', rfl, hk', -⟩ := hr'
  rcases Nat.lt_trichotomy q'.length q.length with hlen | hlen | hlen
  · left
    simpa using hlen
  · right
    have hq : q <+: p := (List.prefix_append q [k]).trans hk
    have hq' : q' <+: p := (List.prefix_append q' [k']).trans hk'
    obtain rfl : q' = q := (List.prefix_of_prefix_length_le hq' hq hlen.le).eq_of_length hlen
    refine ⟨q', j, j', rfl, rfl, ?_⟩
    by_contra hj
    have hge : q' ++ [j'] ≤ q' ++ [j] := by
      rcases (Nat.not_lt.1 hj).eq_or_lt with rfl | hj
      · exact le_refl _
      · exact (lt_of_index_lt (List.prefix_refl _) (List.prefix_refl _) hj).le
    exact absurd (hlt.trans_le hge) (lt_irrefl _)
  · -- otherwise the second path stays on the way down for longer, and comes first
    have hq' : q ++ [k] <+: q' := by
      refine List.prefix_of_prefix_length_le hk ((List.prefix_append q' [k']).trans hk') ?_
      simpa using hlen
    have hgt : q' ++ [j'] < q ++ [j] :=
      lt_of_index_lt (hq'.trans (List.prefix_append q' [j'])) (List.prefix_refl _) hkj
    exact absurd (hlt.trans hgt) (lt_irrefl _)

/-- In a list with increasing paths, what comes after an entry are the larger paths. -/
theorem mem_later_iff {α : Type} {l before after : List (Path × α)} {p r : Path} {x : α}
    (hl : l = before ++ (p, x) :: after) (hincreasing : (l.map Prod.fst).Pairwise (· < ·)) :
    r ∈ after.map Prod.fst ↔ ∃ y, (r, y) ∈ l ∧ p < r := by
  rw [hl, List.map_append, List.map_cons, List.pairwise_append, List.pairwise_cons] at hincreasing
  obtain ⟨-, ⟨hlater, -⟩, hbefore⟩ := hincreasing
  constructor
  · intro hr
    obtain ⟨⟨r, y⟩, hy, rfl⟩ := List.mem_map.1 hr
    exact ⟨y, by simp [hl, hy], hlater r hr⟩
  · rintro ⟨y, hy, hpr⟩
    rw [hl, List.mem_append, List.mem_cons] at hy
    rcases hy with hy | hy | hy
    · have hrp := hbefore r (List.mem_map_of_mem hy) p List.mem_cons_self
      exact absurd (hrp.trans hpr) (lt_irrefl r)
    · cases hy
      exact absurd hpr (lt_irrefl p)
    · exact List.mem_map_of_mem hy

/-! ### A predicate that stops -/

/-- The predicate stops at the occurrence at a path. Questions are put in the order of their paths,
so the ones that are put before are those with a smaller path. -/
structure StopsAt (w : Walker) (asked : List (Path × Question σ)) (p : Path) : Prop where
  /-- Before, all answers are true. -/
  before : ∀ a q, (a, q) ∈ asked → a < p → q.answer = true
  /-- The dialect kinds that are come across before all have a row. -/
  known : ∀ a q kind, (a, q) ∈ asked → a < p → q.node.dialectKind? = some kind →
    (w.registry.childOrder kind).isSome
  /-- At the occurrence and after it, all answers are false. -/
  later : ∀ a q, (a, q) ∈ asked → ¬ a < p → q.answer = false

namespace Walker

variable {w : Walker} {predicate : Handle → StateM σ Bool} {log : LogEvent → StateM σ Unit}
  {h : Handle} {s : σ} {p : Path}

/-- An inspection that stops does not fail. -/
theorem result_of_stopsAt (hstop : StopsAt w (w.asked predicate log h s) p) :
    (w.run (.inspector predicate log) () h s).result = .ok () := by
  cases hresult : (w.run (.inspector predicate log) () h s).result with
  | ok => rfl
  | error e =>
    obtain ⟨kind⟩ := e
    obtain ⟨a, c, hc, ⟨n, j, hevent, hanswer, hkind, hrow⟩, -⟩ := exists_refuses hresult
    -- the refused entry was answered with true, so it came before the stop
    have hq : (a, ⟨n, c.answer.isSome, c.before, c.after⟩) ∈ w.asked predicate log h s :=
      mem_askedIn.2 ⟨c, hc, Call.question?_eq_some_iff.2 ⟨hevent, rfl⟩⟩
    by_cases ha : a < p
    · have hknown := hstop.known a _ kind hq ha hkind
      rw [hrow] at hknown
      cases hknown
    · have hfalse := hstop.later a _ hq ha
      simp [hanswer] at hfalse

/-- The occurrence where the predicate stops is asked about. -/
theorem exists_asked_of_stopsAt (hstop : StopsAt w (w.asked predicate log h s) p) {n : Handle}
    (hn : (w.descend p h).2 = .ok n) :
    ∃ q, (p, q) ∈ w.asked predicate log h s ∧ q.node = n := by
  have hok := result_of_stopsAt hstop
  refine (exists_asked_iff hok).2 (exposed_of_forall_above hok hn fun a q ha hne hq => ?_)
  exact hstop.before a q hq (lt_of_le_of_ne (le_of_ancestor ha) hne)

/-- What is above an occurrence that is asked about comes before the stop. -/
theorem lt_of_above (hstop : StopsAt w (w.asked predicate log h s) p) {a b : Path}
    {q : Question σ} (hb : (b, q) ∈ w.asked predicate log h s) (hab : a <+: b) (hne : a ≠ b) :
    a < p := by
  obtain ⟨q', hq', htrue⟩ :=
    ((exists_asked_iff (result_of_stopsAt hstop)).1 ⟨q, hb, rfl⟩).2 a hab hne
  by_contra hap
  rw [hstop.later a q' hq' hap] at htrue
  cases htrue

/-- **What is asked after the stop** are the occurrences that flank the way down to it. -/
theorem exists_asked_lt_iff (hstop : StopsAt w (w.asked predicate log h s) p) {r : Path} :
    (∃ q, (r, q) ∈ w.asked predicate log h s ∧ p < r) ↔
      Flanks r p ∧ ∃ m, (w.descend r h).2 = .ok m := by
  have hok := result_of_stopsAt hstop
  constructor
  · rintro ⟨q, hq, hpr⟩
    obtain ⟨hm, -⟩ := (exists_asked_iff hok).1 ⟨q, hq, rfl⟩
    refine ⟨?_, q.node, hm⟩
    rcases List.eq_nil_or_concat r with rfl | ⟨a, j, rfl⟩
    · exact absurd hpr (List.not_lt_nil p)
    · rw [List.concat_eq_append] at hq hpr ⊢
      -- the parent comes before the stop, and the stop before the child
      have hparent : a < p := lt_of_above hstop hq (List.prefix_append a [j]) (by simp)
      obtain ⟨k, hk, hkj⟩ := exists_index_of_lt hparent hpr
      exact ⟨a, j, k, rfl, hk, hkj⟩
  · rintro ⟨hr, m, hm⟩
    have hexposed : w.Exposed h (w.asked predicate log h s) r m := by
      refine exposed_of_forall_above hok hm fun a q har hne hq => hstop.before a q hq ?_
      -- what is above the path is above the stop too
      obtain ⟨b, j, k, rfl, hk, -⟩ := hr
      have hab : a <+: b := (List.prefix_concat_iff.1 har).resolve_left hne
      exact (le_of_ancestor hab).trans_lt (lt_of_below hk)
    obtain ⟨q, hq, -⟩ := (exists_asked_iff hok).2 hexposed
    exact ⟨q, hq, hr.lt⟩

/-- How an inspection winds up after a question about `p`: the questions that are still put. -/
structure WindsUp (w : Walker) (h : Handle) (asked : List (Path × Question σ)) (p : Path)
    (after : List (Path × Question σ)) : Prop where
  /-- They are about the occurrences that flank the way down to `p`, and about no other. -/
  mem_iff : ∀ r, r ∈ after.map Prod.fst ↔ Flanks r p ∧ ∃ m, (w.descend r h).2 = .ok m
  /-- The paths lead to the nodes that are asked about. -/
  descend_eq : ∀ r q, (r, q) ∈ after → (w.descend r h).2 = .ok q.node
  /-- Deeper occurrences come first, and siblings in the order of their indices. -/
  ordered : (after.map Prod.fst).Pairwise fun r r' =>
    r'.length < r.length ∨ ∃ a j j', r = a ++ [j] ∧ r' = a ++ [j'] ∧ j < j'
  /-- Nothing below them is entered. -/
  alone : ∀ r ∈ after.map Prod.fst, ∀ x ∈ asked, r <+: x.1 → x.1 = r

/-- **A predicate that stops.** Let a path lead to a node, and let the predicate of an inspection
answer true before it comes to this path and false from there on, with a row for all dialect kinds
that it comes across before. Then the inspection succeeds, whatever dialect nodes there are
elsewhere. The question about the node is put, and after that only questions about later siblings
of the node and of the nodes above it, each once, the deepest siblings first and in the order of
their indices. Nothing is entered below these. -/
theorem windsUp_of_stopsAt (w : Walker) (predicate : Handle → StateM σ Bool)
    (log : LogEvent → StateM σ Unit) (h : Handle) (s : σ) (p : Path) (n : Handle)
    (hn : (w.descend p h).2 = .ok n) (hstop : StopsAt w (w.asked predicate log h s) p) :
    ((w.inspect predicate h log).run.run s).1 = .ok () ∧
    (w.asked predicate log h s).map Prod.snd = w.questions predicate log h s ∧
    ((w.asked predicate log h s).map Prod.fst).Pairwise (· < ·) ∧
    ∃ before q after, w.asked predicate log h s = before ++ (p, q) :: after ∧ q.node = n ∧
      w.WindsUp h (w.asked predicate log h s) p after := by
  have hok := result_of_stopsAt hstop
  have hincreasing := increasing_asked w predicate log h s
  refine ⟨by rw [inspect, run_walk, hok], w.map_snd_asked predicate log h s, hincreasing, ?_⟩
  obtain ⟨q, hq, hnode⟩ := exists_asked_of_stopsAt hstop hn
  obtain ⟨before, after, hsplit⟩ := List.append_of_mem hq
  have hafter : ∀ r, r ∈ after.map Prod.fst ↔ Flanks r p ∧ ∃ m, (w.descend r h).2 = .ok m := by
    intro r
    rw [← exists_asked_lt_iff hstop, ← mem_later_iff hsplit hincreasing]
  refine ⟨before, q, after, hsplit, hnode, hafter, fun r q' hq' => ?_, ?_, fun r hr x hx hrx => ?_⟩
  · have hmem : (r, q') ∈ w.asked predicate log h s := by simp [hsplit, hq']
    exact ((exists_asked_iff hok).1 ⟨q', hmem, rfl⟩).1
  · rw [hsplit, List.map_append, List.map_cons, List.pairwise_append, List.pairwise_cons]
      at hincreasing
    exact hincreasing.2.1.2.imp_of_mem fun hr hr' hlt =>
      ((hafter _).1 hr).1.deeper_or_sibling ((hafter _).1 hr').1 hlt
  · by_contra hne
    have hlt : r < p := lt_of_above hstop (b := x.1) (q := x.2) hx hrx (Ne.symm hne)
    exact absurd (hlt.trans ((hafter r).1 hr).1.lt) (lt_irrefl r)

/-- A name in a list, with a predicate that holds for the list and the name and stops below the
name. The item of the list is a dialect node without a row: it is asked about, and does no
harm. -/
theorem windsUp_listed :
    let h : Handle := .listed ⟨"a", none, ⟨0, 1⟩⟩ false .nil
    let asked := ({} : Walker).asked (holdsUpTo 2) (fun _ => pure ()) h 0
    (∃ n, (({} : Walker).descend [0, 0] h).2 = .ok n) ∧ StopsAt {} asked [0, 0] ∧
    (asked.map fun x => (x.1, x.2.answer, x.2.node.dialectKind?)) =
      [([], true, none), ([0], true, none), ([0, 0], false, none), ([1], false, some "hint")] ∧
    ((({} : Walker).inspect (holdsUpTo 2) h).run.run 0).1 = .ok () ∧
    ∃ before q after, asked = before ++ ([0, 0], q) :: after ∧
      ({} : Walker).WindsUp h asked [0, 0] after := by
  intro h asked
  have hn : (({} : Walker).descend [0, 0] h).2 =
      .ok ⟨.field (.cell 1) "ident", .ident, .atom ⟨"a", none, ⟨0, 1⟩⟩⟩ := by cbv
  have hasked : (asked.map fun x => (x.1, x.2.answer, x.2.node.dialectKind?)) =
      [([], true, none), ([0], true, none), ([0, 0], false, none), ([1], false, some "hint")] := by
    simp only [asked]
    cbv
  have hall : ∀ x ∈ asked.map fun x => (x.1, x.2.answer, x.2.node.dialectKind?),
      (x.1 < [0, 0] → x.2.1 = true ∧ x.2.2 = none) ∧ (¬ x.1 < [0, 0] → x.2.1 = false) := by
    rw [hasked]
    decide
  have hstop : StopsAt {} asked [0, 0] := by
    refine ⟨fun a q hq ha => ?_, fun a q kind hq ha hkind => ?_, fun a q hq ha => ?_⟩
    · exact ((hall _ (List.mem_map_of_mem hq)).1 ha).1
    · have hnone : q.node.dialectKind? = none := ((hall _ (List.mem_map_of_mem hq)).1 ha).2
      rw [hnone] at hkind
      cases hkind
    · exact (hall _ (List.mem_map_of_mem hq)).2 ha
  obtain ⟨hok, -, -, before, q, after, hsplit, -, hwinds⟩ :=
    windsUp_of_stopsAt {} (holdsUpTo 2) (fun _ => pure ()) h 0 [0, 0] _ hn hstop
  exact ⟨⟨_, hn⟩, hstop, hasked, hok, before, q, after, hsplit, hwinds⟩

end Walker

end SqlTree
