import Mathlib
import SqlTree.Proofs.Walk.Inspection
import SqlTree.Proofs.Walk.Tour

/-!
# Pruning is deletion

A visitor that follows a predicate `p` is told more than one that follows `p` and `q` both. The
difference are whole stretches of events: below each occurrence where `p` holds and `q` does not,
the latter is told nothing, and it is not told that the occurrence is left. Such occurrences may
lie below each other, and then only the outermost one matters.

* `cutAt` says of an occurrence that it is entered, and that its node satisfies `p` but not `q`;
  `outermostCutAt` says that moreover no occurrence above it is cut.
* `excised` says of an event that it belongs to an outermost cut occurrence, or to one below it,
  and is not the entry of the former.
* `Tree.tour_and_eq_filter`: the tour of `p` and `q` is the tour of `p` without what is excised.
  This is an induction over the tree; no event of one child is excised on account of another.
* `Excision` adds what is excised: for each outermost cut occurrence one stretch, from behind its
  entry up to and including its leaving.

Main statement: `Walker.excision_of_walk_ok`.
-/

set_option autoImplicit false

namespace SqlTree

/-! ### Cut occurrences -/

section Cut

variable (p q : Handle → Bool)

/-- The occurrence at a path is entered, and its node satisfies `p` but not `q`. -/
def cutAt (events : List (Path × Event)) (a : Path) : Bool :=
  events.any fun x => x.1 == a && x.2.node?.any fun n => p n && !q n

/-- The occurrence at a path is cut, and none above it is. -/
def outermostCutAt (events : List (Path × Event)) (a : Path) : Bool :=
  cutAt p q events a && a.inits.all fun b => b == a || !cutAt p q events b

/-- The event is told at or below an outermost cut occurrence, and is not its entry. -/
def excised (events : List (Path × Event)) (x : Path × Event) : Bool :=
  x.1.inits.any fun a => outermostCutAt p q events a && (x.1 != a || x.2.isLeave)

variable {p q} {events : List (Path × Event)} {a : Path} {x : Path × Event}

theorem cutAt_iff :
    cutAt p q events a = true ↔ ∃ n, (a, .enter n) ∈ events ∧ p n = true ∧ q n = false := by
  rw [cutAt, List.any_eq_true]
  constructor
  · rintro ⟨⟨b, e⟩, hx, hcut⟩
    cases e with
    | leave => simp [Event.node?] at hcut
    | enter n =>
      obtain ⟨rfl, hp, hq⟩ : b = a ∧ p n = true ∧ q n = false := by
        simpa [Event.node?] using hcut
      exact ⟨n, hx, hp, hq⟩
  · rintro ⟨n, hn, hp, hq⟩
    exact ⟨(a, .enter n), hn, by simp [Event.node?, hp, hq]⟩

theorem outermostCutAt_iff :
    outermostCutAt p q events a = true ↔
      cutAt p q events a = true ∧ ∀ b, b <+: a → b ≠ a → cutAt p q events b = false := by
  rw [outermostCutAt, Bool.and_eq_true, List.all_eq_true]
  refine and_congr_right fun _ => forall_congr' fun b => ?_
  rw [List.mem_inits, Bool.or_eq_true, beq_iff_eq, Bool.not_eq_true', or_iff_not_imp_left]

/-- Above every cut occurrence, or at it, there is an outermost one. -/
theorem exists_outermostCutAt (hcut : cutAt p q events a = true) :
    ∃ b, b <+: a ∧ outermostCutAt p q events b = true := by
  induction hn : a.length using Nat.strongRecOn generalizing a with
  | ind n ih =>
    by_cases habove : ∃ b, b <+: a ∧ b ≠ a ∧ cutAt p q events b = true
    · obtain ⟨b, hb, hne, hcutb⟩ := habove
      have hlt : b.length < n := hn ▸ hb.length_le.lt_of_ne fun heq => hne (hb.eq_of_length heq)
      obtain ⟨c, hc, hout⟩ := ih b.length hlt hcutb rfl
      exact ⟨c, hc.trans hb, hout⟩
    · refine ⟨a, List.prefix_refl a, outermostCutAt_iff.2 ⟨hcut, fun b hb hne => ?_⟩⟩
      rw [Bool.eq_false_iff]
      intro hcutb
      exact habove ⟨b, hb, hne, hcutb⟩

/-- For what is excised it does not matter whether the cut occurrence is an outermost one. -/
theorem excised_iff :
    excised p q events x = true ↔
      ∃ a, cutAt p q events a = true ∧ a <+: x.1 ∧ (x.1 = a → x.2.isLeave = true) := by
  have hmem : excised p q events x = true ↔ ∃ a, a <+: x.1 ∧ outermostCutAt p q events a = true ∧
      (x.1 = a → x.2.isLeave = true) := by
    rw [excised, List.any_eq_true]
    refine exists_congr fun a => ?_
    rw [List.mem_inits, Bool.and_eq_true, Bool.or_eq_true, bne_iff_ne, ne_eq, ← imp_iff_not_or]
  rw [hmem]
  constructor
  · rintro ⟨a, ha, hout, hleave⟩
    exact ⟨a, (outermostCutAt_iff.1 hout).1, ha, hleave⟩
  · rintro ⟨a, hcut, ha, hleave⟩
    obtain ⟨b, hb, hout⟩ := exists_outermostCutAt hcut
    refine ⟨b, hb.trans ha, hout, fun hxb => hleave ?_⟩
    -- an outermost cut occurrence at the event itself is also the given one
    exact hxb.trans (hb.eq_of_length (hb.length_le.antisymm (hxb ▸ ha.length_le)))

/-- Events at other occurrences do not count. -/
theorem excised_congr {events' : List (Path × Event)}
    (hevents : ∀ a n, a <+: x.1 → ((a, .enter n) ∈ events ↔ (a, .enter n) ∈ events')) :
    excised p q events x = excised p q events' x := by
  rw [Bool.eq_iff_iff, excised_iff, excised_iff]
  refine exists_congr fun a => ?_
  rw [cutAt_iff, cutAt_iff]
  constructor
  · rintro ⟨⟨n, hn, hcut⟩, ha, hleave⟩
    exact ⟨⟨n, (hevents a n ha).1 hn, hcut⟩, ha, hleave⟩
  · rintro ⟨⟨n, hn, hcut⟩, ha, hleave⟩
    exact ⟨⟨n, (hevents a n ha).2 hn, hcut⟩, ha, hleave⟩

end Cut

/-! ### The tour of two predicates -/

section Tour

variable {p q : Handle → Bool}

/-- Of two stretches of events that have no occurrence above each other, each is filtered by
itself. -/
theorem filter_excised_append {l l' : List (Path × Event)}
    (hl : ∀ x ∈ l, ∀ y ∈ l', ¬ y.1 <+: x.1 ∧ ¬ x.1 <+: y.1) :
    ((l ++ l').filter fun x => !excised p q (l ++ l') x) =
      (l.filter fun x => !excised p q l x) ++ l'.filter fun x => !excised p q l' x := by
  rw [List.filter_append]
  congr 1
  · refine List.filter_congr fun x hx => ?_
    have hfirst : ∀ a n, a <+: x.1 → ((a, .enter n) ∈ l ++ l' ↔ (a, .enter n) ∈ l) := by
      intro a n ha
      rw [List.mem_append, or_iff_left]
      exact fun hn => (hl x hx _ hn).1 ha
    rw [excised_congr hfirst]
  · refine List.filter_congr fun x hx => ?_
    have hsecond : ∀ a n, a <+: x.1 → ((a, .enter n) ∈ l ++ l' ↔ (a, .enter n) ∈ l') := by
      intro a n ha
      rw [List.mem_append, or_iff_right]
      exact fun hn => (hl _ hn x hx).2 ha
    rw [excised_congr hsecond]

/-- An entry alone stays, whether it is cut or not. -/
theorem filter_excised_entry (path : Path) (h : Handle) :
    ([(path, .enter h)].filter fun x => !excised p q [(path, .enter h)] x) =
      [(path, .enter h)] := by
  have hkept : excised p q [(path, .enter h)] (path, .enter h) = false := by
    rw [Bool.eq_false_iff, ne_eq, excised_iff]
    rintro ⟨a, hcut, -, hleave⟩
    obtain ⟨n, hn, -⟩ := cutAt_iff.1 hcut
    have heq : a = path := (Prod.mk.inj (List.mem_singleton.1 hn)).1
    cases hleave heq.symm
  rw [List.filter_cons_of_pos (by simp [hkept]), List.filter_nil]

/-- Below a node that is not cut, the node itself does not count. -/
theorem filter_excised_enclosed {path : Path} {h : Handle} {inner : List (Path × Event)}
    (hh : (p h && !q h) = false) (hinner : ∀ x ∈ inner, ¬ x.1 <+: path) :
    (((path, .enter h) :: (inner ++ [(path, .leave)])).filter fun x =>
        !excised p q ((path, .enter h) :: (inner ++ [(path, .leave)])) x) =
      (path, .enter h) :: ((inner.filter fun x => !excised p q inner x) ++ [(path, .leave)]) := by
  have hsame : ∀ x, excised p q ((path, .enter h) :: (inner ++ [(path, .leave)])) x =
      excised p q inner x := by
    intro x
    rw [Bool.eq_iff_iff, excised_iff, excised_iff]
    refine exists_congr fun a => and_congr_left fun _ => ?_
    rw [cutAt_iff, cutAt_iff]
    refine exists_congr fun n => and_congr_left fun hn => ?_
    have hne : n ≠ h := by
      rintro rfl
      simp [hn.1, hn.2] at hh
    simp [hne]
  have hkept : ∀ e, excised p q inner (path, e) = false := by
    intro e
    rw [Bool.eq_false_iff, ne_eq, excised_iff]
    rintro ⟨a, hcut, ha, -⟩
    obtain ⟨n, hn, -⟩ := cutAt_iff.1 hcut
    exact hinner _ hn ha
  simp only [hsame]
  rw [List.filter_cons_of_pos (by simp [hkept]), List.filter_append,
    List.filter_cons_of_pos (by simp [hkept]), List.filter_nil]

/-- Of a node that is cut only the entry stays. -/
theorem filter_excised_cut {path : Path} {h : Handle} {inner : List (Path × Event)}
    (hp : p h = true) (hq : q h = false) (hinner : ∀ x ∈ inner, path <+: x.1 ∧ x.1 ≠ path) :
    (((path, .enter h) :: (inner ++ [(path, .leave)])).filter fun x =>
        !excised p q ((path, .enter h) :: (inner ++ [(path, .leave)])) x) =
      [(path, .enter h)] := by
  have hcut : cutAt p q ((path, .enter h) :: (inner ++ [(path, .leave)])) path = true :=
    cutAt_iff.2 ⟨h, List.mem_cons_self, hp, hq⟩
  have hkept : excised p q ((path, .enter h) :: (inner ++ [(path, .leave)])) (path, .enter h) =
      false := by
    rw [Bool.eq_false_iff, ne_eq, excised_iff]
    rintro ⟨a, hcuta, ha, hleave⟩
    -- everything is told at or below the node, so an occurrence above it is not cut
    obtain ⟨n, hn, -⟩ := cutAt_iff.1 hcuta
    have hpa : path <+: a := by
      rcases List.mem_cons.1 hn with heq | hn
      · rw [(Prod.mk.inj heq).1]
      rcases List.mem_append.1 hn with hn | hn
      · exact (hinner _ hn).1
      · rw [(Prod.mk.inj (List.mem_singleton.1 hn)).1]
    have heq : path = a := hpa.eq_of_length (hpa.length_le.antisymm ha.length_le)
    cases hleave heq
  rw [List.filter_cons_of_pos (by simp [hkept]), List.filter_eq_nil_iff.2]
  intro x hx
  rw [Bool.not_eq_true', Bool.not_eq_false, excised_iff]
  rcases List.mem_append.1 hx with hx | hx
  · exact ⟨path, hcut, (hinner x hx).1, fun heq => absurd heq (hinner x hx).2⟩
  · obtain rfl := List.mem_singleton.1 hx
    exact ⟨path, hcut, List.prefix_refl path, fun _ => rfl⟩

mutual

/-- **The tour of `p` and `q` is the tour of `p` without what is excised.** -/
theorem Tree.tour_and_eq_filter (path : Path) : (t : Tree) →
    t.tour (fun n => p n && q n) path =
      (t.tour p path).filter fun x => !excised p q (t.tour p path) x
  | .node h below => by
    have hbelow : ∀ x ∈ below.tour p path 0, path <+: x.1 ∧ ¬ x.1 <+: path := by
      intro x hx
      obtain ⟨m, -, hm⟩ := below.prefix_of_mem_tour p path 0 x hx
      exact ⟨(List.prefix_append path [m]).trans hm, not_prefix_of_below hm⟩
    cases hp : p h with
    | false =>
      have hpq : (p h && q h) = false := by rw [hp, Bool.false_and]
      rw [Tree.tour_of_false (t := .node h below) hp, Tree.tour_of_false (t := .node h below) hpq]
      exact (filter_excised_entry path h).symm
    | true =>
      rw [Tree.tour_node_of_true hp]
      cases hq : q h with
      | false =>
        -- the node is cut: what the tour of `p` tells below it goes, and its leaving too
        have hpq : (p h && q h) = false := by rw [hq, Bool.and_false]
        rw [Tree.tour_of_false (t := .node h below) hpq, filter_excised_cut hp hq]
        · rfl
        · exact fun x hx => ⟨(hbelow x hx).1, fun heq => (hbelow x hx).2 (heq ▸ List.prefix_refl _)⟩
      | true =>
        have hpq : (p h && q h) = true := by rw [hp, hq, Bool.and_true]
        rw [Tree.tour_node_of_true hpq, below.tour_and_eq_filter path 0,
          filter_excised_enclosed (by simp [hq]) fun x hx => (hbelow x hx).2]
  | .stuck h e => by
    rw [Tree.tour, Tree.tour]
    exact (filter_excised_entry path h).symm

theorem Forest.tour_and_eq_filter (path : Path) (k : Nat) : (f : Forest) →
    f.tour (fun n => p n && q n) path k =
      (f.tour p path k).filter fun x => !excised p q (f.tour p path k) x
  | .nil => rfl
  | .cons t f => by
    rw [Forest.tour, Forest.tour, t.tour_and_eq_filter (path ++ [k]),
      f.tour_and_eq_filter path (k + 1), filter_excised_append]
    intro x hx y hy
    -- a common occurrence would be below two children at once
    have hk := t.prefix_of_mem_tour p (path ++ [k]) x hx
    obtain ⟨m, hkm, hm⟩ := f.prefix_of_mem_tour p path (k + 1) y hy
    refine ⟨fun hyx => ?_, fun hxy => ?_⟩
    · have := index_unique hk (hm.trans hyx)
      omega
    · have := index_unique (hk.trans hxy) hm
      omega

end

mutual

/-- A passable tour stays passable if it turns back more often. -/
theorem Tree.passable_and : (t : Tree) → t.passable p = true →
    t.passable (fun n => p n && q n) = true
  | .node h below, hpass => by
    rw [Tree.passable, Bool.or_eq_true, Bool.not_eq_true'] at hpass ⊢
    rcases hpass with hp | hbelow
    · exact .inl (by rw [hp, Bool.false_and])
    · exact .inr (below.passable_and hbelow)
  | .stuck h e, hpass => by
    rw [Tree.passable, Bool.not_eq_true'] at hpass ⊢
    rw [hpass, Bool.false_and]

theorem Forest.passable_and : (f : Forest) → f.passable p = true →
    f.passable (fun n => p n && q n) = true
  | .nil, _ => rfl
  | .cons t f, hpass => by
    rw [Forest.passable, Bool.and_eq_true] at hpass ⊢
    exact ⟨t.passable_and hpass.1, f.passable_and hpass.2⟩

end

end Tour

/-! ### Walks with two predicates -/

/-- What is left of the events of a walk that follows `p` when everything is deleted that a walk
which follows `q` too is not told. -/
structure Excision (p q : Handle → Bool) (events left : List (Path × Event)) : Prop where
  /-- What is not excised stays, in the same order. -/
  kept : left = events.filter fun x => !excised p q events x
  /-- For an outermost cut occurrence, the events at and below it form one stretch, from its entry
  to its leaving. The entry stays, and all the others are excised. -/
  stretch : ∀ a, outermostCutAt p q events a = true → ∃ before n inner later,
    events = before ++ (a, .enter n) :: (inner ++ (a, .leave) :: later) ∧
    p n = true ∧ q n = false ∧
    (∀ y ∈ inner, a <+: y.1 ∧ y.1 ≠ a) ∧ (∀ y ∈ before ++ later, ¬ a <+: y.1) ∧
    excised p q events (a, .enter n) = false ∧
    ∀ y ∈ inner ++ [(a, .leave)], excised p q events y = true

namespace Walker

variable {ι σ : Type} {w : Walker} {v : Visitor ι σ} {i : ι} {h : Handle} {s : σ}
  {p q : Handle → Bool}

/-- The events at and below an outermost cut occurrence. -/
theorem exists_stretch (hv : v.Follows i p) (hok : ((w.walk v i h).run.run s).1 = .ok ())
    {a : Path} (ha : outermostCutAt p q (told (w.trail v i h s)) a = true) :
    ∃ before n inner later,
      told (w.trail v i h s) = before ++ (a, .enter n) :: (inner ++ (a, .leave) :: later) ∧
      p n = true ∧ q n = false ∧
      (∀ y ∈ inner, a <+: y.1 ∧ y.1 ≠ a) ∧ (∀ y ∈ before ++ later, ¬ a <+: y.1) := by
  obtain ⟨n, hn, hp, hq⟩ := cutAt_iff.1 (outermostCutAt_iff.1 ha).1
  obtain ⟨c, hc, hevent⟩ := mem_told.1 hn
  have hanswer := answer_of_mem_trail hv hc hevent
  rw [if_pos hp] at hanswer
  -- the visitor descends there, so the entry is closed by a leaving
  rw [run_walk] at hok
  obtain ⟨before, inner, d, later, htrail, hd, -, -, hinner, hothers⟩ :=
    (paired_trail hok).closed a c hc (Call.opens_iff.2 ⟨n, i, hevent, hanswer⟩)
  refine ⟨told before, n, told inner, told later, ?_, hp, hq, ?_, ?_⟩
  · rw [htrail]
    simp [told, hevent, Call.isLeave_iff.1 hd]
  · rintro ⟨b, e⟩ hb
    obtain ⟨c', hc', -⟩ := mem_told.1 hb
    exact hinner (b, c') hc'
  · rintro ⟨b, e⟩ hb
    rw [← told_append] at hb
    obtain ⟨c', hc', -⟩ := mem_told.1 hb
    exact hothers (b, c') hc'

/-- **Pruning is deletion.** Where a walk that follows `p` succeeds, a walk that follows `p` and
`q` succeeds too. It is told the same, without the stretches that belong to the outermost
occurrences where `p` holds and `q` does not: of each of these the entry stays, and all events
behind it up to and including its leaving are deleted. -/
theorem excision_of_walk_ok {ι' σ' : Type} (w : Walker) (h : Handle) (p q : Handle → Bool)
    (v : Visitor ι σ) (i : ι) (s : σ) (v' : Visitor ι' σ') (i' : ι') (s' : σ')
    (hv : v.Follows i p) (hv' : v'.Follows i' fun n => p n && q n)
    (hok : ((w.walk v i h).run.run s).1 = .ok ()) :
    ((w.walk v' i' h).run.run s').1 = .ok () ∧
    w.Places h (w.calls v i h s) (w.trail v i h s) ∧
    w.Places h (w.calls v' i' h s') (w.trail v' i' h s') ∧
    Excision p q (told (w.trail v i h s)) (told (w.trail v' i' h s')) := by
  have hok' : ((w.walk v' i' h).run.run s').1 = .ok () :=
    (walk_eq_ok_iff_passable hv').2
      ((w.unfold h).passable_and ((walk_eq_ok_iff_passable hv).1 hok))
  refine ⟨hok', w.places_trail v i h s, w.places_trail v' i' h s', ?_, fun a ha => ?_⟩
  · rw [told_trail hv hok, told_trail hv' hok']
    exact (w.unfold h).tour_and_eq_filter []
  · obtain ⟨before, n, inner, later, hevents, hp, hq, hinner, hothers⟩ := exists_stretch hv hok ha
    obtain ⟨hcut, habove⟩ := outermostCutAt_iff.1 ha
    refine ⟨before, n, inner, later, hevents, hp, hq, hinner, hothers, ?_, fun y hy => ?_⟩
    · rw [Bool.eq_false_iff, ne_eq, excised_iff]
      rintro ⟨b, hcutb, hb, hleave⟩
      by_cases hba : a = b
      · cases hleave hba
      · rw [habove b hb (Ne.symm hba)] at hcutb
        cases hcutb
    · rw [excised_iff]
      rcases List.mem_append.1 hy with hy | hy
      · exact ⟨a, hcut, (hinner y hy).1, fun heq => absurd heq (hinner y hy).2⟩
      · obtain rfl := List.mem_singleton.1 hy
        exact ⟨a, hcut, List.prefix_refl a, fun _ => rfl⟩

/-- The comparison, once in full and once without what is below its operands. Names are cut too,
but they are cut below the operands. -/
theorem excision_selfCompared :
    let p : Handle → Bool := fun _ => true
    let q : Handle → Bool := fun n => n.kind ≠ .identifier && n.kind ≠ .ident
    let v : Visitor Unit Unit := .inspector fun n => pure (p n)
    let v' : Visitor Unit Unit := .inspector fun n => pure (p n && q n)
    v.Follows () p ∧ (v'.Follows () fun n => p n && q n) ∧
    ((hinting.walk v () .selfCompared).run.run ()).1 = .ok () ∧
    ((hinting.walk v' () .selfCompared).run.run ()).1 = .ok () ∧
    Excision p q (told (hinting.trail v () .selfCompared ()))
      (told (hinting.trail v' () .selfCompared ())) ∧
    ((told (hinting.trail v () .selfCompared ())).map fun x => (x.1, x.2.isLeave)) =
      [([], false), ([0], false), ([0, 0], false), ([0, 0], true), ([0], true), ([1], false),
        ([1], true), ([2], false), ([2, 0], false), ([2, 0], true), ([2], true), ([], true)] ∧
    ((told (hinting.trail v' () .selfCompared ())).map fun x => (x.1, x.2.isLeave)) =
      [([], false), ([0], false), ([1], false), ([1], true), ([2], false), ([], true)] := by
  intro p q v v'
  have hv : v.Follows () p := Visitor.follows_inspector p
  have hv' : v'.Follows () fun n => p n && q n := Visitor.follows_inspector fun n => p n && q n
  have hok : ((hinting.walk v () .selfCompared).run.run ()).1 = .ok () := by cbv
  obtain ⟨hok', -, -, hexcision⟩ :=
    excision_of_walk_ok hinting .selfCompared p q v () () v' () () hv hv' hok
  exact ⟨hv, hv', hok, hok', hexcision, by cbv, by cbv⟩

end Walker

end SqlTree
