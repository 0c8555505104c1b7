import Mathlib
import SqlTree.Proofs.Node.Storage
import SqlTree.Proofs.Walk.Inspection

/-!
# One entry for each stored node

Where nothing is shared, different paths lead to different stored nodes. So a full inspection, which
asks about every occurrence once, asks about every stored node once. Blank nodes are left aside,
since nothing tells where they are stored. The rows of the walker must not name a field twice: if
they do, the nodes in the field occur twice, however they are stored.

* `Walker.Unshared.place_mem_territory`: every path stays in the territory of the root.
* `Walker.Unshared.place_ne`: different paths lead to different places.
* `Walker.entries` are the nodes that an inspection asks about, `Walker.storedNodes` the stored
  nodes that can be reached.

Main statement: `Walker.entries_distinct`.
-/

set_option autoImplicit false

namespace SqlTree

namespace Walker

/-! ### Paths in an unshared tree -/

namespace Unshared

variable {w : Walker} {h n n' : Handle}

/-- One step down from an unshared node leads to an unshared node, whose territory is a part of
that of its parent without the place of the parent. -/
theorem child (hh : w.Unshared h) (hrows : w.RowsDistinct) {cs : List Handle}
    (hcs : w.children h = .ok cs) {c : Handle} (hc : c ∈ cs) :
    w.Unshared c ∧ c.territory w ⊆ h.territory w \ {h.place} := by
  have hparcels := hh.parcels hrows hcs
  refine ⟨hparcels.unshared c hc, ?_⟩
  simpa using hparcels.subset c hc

theorem place_mem_territory (hh : w.Unshared h) (hrows : w.RowsDistinct) {path : Path}
    (hn : (w.descend path h).2 = .ok n) (hblank : n.kind.isBlank = false) :
    n.place ∈ h.territory w := by
  induction path generalizing h with
  | nil =>
    cases hn
    exact ⟨hblank, .inl .self⟩
  | cons k path ih =>
    obtain ⟨cs, c, hcs, hk, hn⟩ := descend_cons_eq_ok_iff.1 hn
    obtain ⟨hc, hsub⟩ := hh.child hrows hcs (List.mem_of_getElem? hk)
    exact (hsub (ih hc hn)).1

/-- Below the root no path leads to the place of the root. -/
theorem place_ne_root (hh : w.Unshared h) (hrows : w.RowsDistinct) {k : Nat} {path : Path}
    (hn : (w.descend (k :: path) h).2 = .ok n) (hblank : n.kind.isBlank = false) :
    n.place ≠ h.place := by
  obtain ⟨cs, c, hcs, hk, hn⟩ := descend_cons_eq_ok_iff.1 hn
  obtain ⟨hc, hsub⟩ := hh.child hrows hcs (List.mem_of_getElem? hk)
  exact (hsub (hc.place_mem_territory hrows hn hblank)).2

/-- **Different paths lead to different places** if nothing is shared. -/
theorem place_ne (hh : w.Unshared h) (hrows : w.RowsDistinct) {p p' : Path} (hp : p ≠ p')
    (hn : (w.descend p h).2 = .ok n) (hn' : (w.descend p' h).2 = .ok n')
    (hblank : n.kind.isBlank = false) (hblank' : n'.kind.isBlank = false) :
    n.place ≠ n'.place := by
  induction p generalizing h p' with
  | nil =>
    cases p' with
    | nil => exact absurd rfl hp
    | cons k' path' =>
      cases hn
      exact (hh.place_ne_root hrows hn' hblank').symm
  | cons k path ih =>
    cases p' with
    | nil =>
      cases hn'
      exact hh.place_ne_root hrows hn hblank
    | cons k' path' =>
      obtain ⟨cs, c, hcs, hk, hn⟩ := descend_cons_eq_ok_iff.1 hn
      obtain ⟨cs', c', hcs', hk', hn'⟩ := descend_cons_eq_ok_iff.1 hn'
      obtain rfl : cs = cs' := Except.ok.inj (hcs.symm.trans hcs')
      have hc := (hh.child hrows hcs (List.mem_of_getElem? hk)).1
      by_cases hkk' : k = k'
      · -- the paths part further down
        subst hkk'
        obtain rfl : c = c' := Option.some.inj (hk.symm.trans hk')
        exact ih hc (fun heq => hp (congrArg (k :: ·) heq)) hn hn'
      · -- the paths part here, and the territories of the two children are apart
        have hc' := (hh.child hrows hcs (List.mem_of_getElem? hk')).1
        have hapart := (hh.parcels hrows hcs).disjoint_of_ne hkk' hk hk'
        intro heq
        exact Set.disjoint_left.1 hapart (hc.place_mem_territory hrows hn hblank)
          (heq ▸ hc'.place_mem_territory hrows hn' hblank')

end Unshared

/-! ### Entries and stored nodes -/

variable {σ : Type}

/-- The nodes that an inspection asks about, in order. Blank nodes are left aside. -/
def entries (w : Walker) (predicate : Handle → StateM σ Bool) (log : LogEvent → StateM σ Unit)
    (h : Handle) (s : σ) : List Handle :=
  ((w.questions predicate log h s).map Question.node).filter fun n => !n.kind.isBlank

/-- The stored nodes that can be reached from a node, by kind and place. Blank nodes are left
aside. -/
def storedNodes (w : Walker) (h : Handle) : Set (Kind × Place) :=
  {x | ∃ p n, (w.descend p h).2 = .ok n ∧ n.kind.isBlank = false ∧ x = (n.kind, n.place)}

variable {w : Walker} {predicate : Handle → StateM σ Bool} {log : LogEvent → StateM σ Unit}
  {h : Handle} {s : σ}

theorem entries_eq_asked : w.entries predicate log h s =
    ((w.asked predicate log h s).map fun x => x.2.node).filter fun n => !n.kind.isBlank := by
  rw [entries, ← map_snd_asked, List.map_map]
  rfl

/-- A full inspection enters all stored nodes that can be reached. -/
theorem exists_mem_entries_iff (hok : (w.run (.inspector predicate log) () h s).result = .ok ())
    (htrue : ∀ n t, ((predicate n).run t).1 = true) {x : Kind × Place} :
    (∃ n ∈ w.entries predicate log h s, (n.kind, n.place) = x) ↔ x ∈ w.storedNodes h := by
  simp only [storedNodes, Set.mem_ofPred_eq, ← exists_asked_iff_of_forall_true hok htrue,
    entries_eq_asked]
  constructor
  · rintro ⟨n, hn, rfl⟩
    obtain ⟨hn, hblank⟩ := List.mem_filter.1 hn
    obtain ⟨⟨p, q⟩, hq, rfl⟩ := List.mem_map.1 hn
    exact ⟨p, q.node, ⟨q, hq, rfl⟩, by simpa using hblank, rfl⟩
  · rintro ⟨p, n, ⟨q, hq, rfl⟩, hblank, rfl⟩
    refine ⟨q.node, List.mem_filter.2 ⟨List.mem_map.2 ⟨(p, q), hq, rfl⟩, ?_⟩, rfl⟩
    simpa using hblank

/-- The places of the entries are different if nothing is shared. -/
theorem pairwise_place_entries (hrows : w.RowsDistinct) (hh : w.Unshared h)
    (hok : (w.run (.inspector predicate log) () h s).result = .ok ())
    (htrue : ∀ n t, ((predicate n).run t).1 = true) :
    (w.entries predicate log h s).Pairwise fun a b => a.place ≠ b.place := by
  have hpaths : (w.asked predicate log h s).Pairwise fun x y => x.1 < y.1 :=
    List.pairwise_map.1 (increasing_asked w predicate log h s)
  rw [entries_eq_asked, List.pairwise_filter, List.pairwise_map]
  refine hpaths.imp_of_mem fun {x y} hx hy hlt hblank hblank' => ?_
  have hleads : ∀ x ∈ w.asked predicate log h s, (w.descend x.1 h).2 = .ok x.2.node :=
    fun x hx => (exists_asked_iff_of_forall_true hok htrue).1 ⟨x.2, hx, rfl⟩
  exact hh.place_ne hrows (ne_of_lt hlt) (hleads x hx) (hleads y hy) (by simpa using hblank)
    (by simpa using hblank')

/-- **One entry for each stored node.** Let no row of the walker have a name twice, and let nothing
in the tree be shared. Then the nodes that a full inspection enters, if it succeeds, are pairwise
not the same, and there are as many of them as there are stored nodes that can be reached. Blank
nodes are left aside. -/
theorem entries_distinct (w : Walker) (hrows : w.RowsDistinct) (h : Handle) (hh : w.Unshared h)
    (predicate : Handle → StateM σ Bool) (log : LogEvent → StateM σ Unit)
    (htrue : ∀ n t, ((predicate n).run t).1 = true) (s : σ)
    (hok : ((w.inspect predicate h log).run.run s).1 = .ok ()) :
    (w.entries predicate log h s).Pairwise (fun a b => a.same b = false) ∧
    (w.entries predicate log h s).length = Set.ncard (w.storedNodes h) := by
  classical
  rw [inspect, run_walk] at hok
  have hplaces := pairwise_place_entries hrows hh hok htrue
  refine ⟨hplaces.imp fun hne => ?_, ?_⟩
  · simp [Handle.same, hne]
  · have hnodup : ((w.entries predicate log h s).map fun n => (n.kind, n.place)).Nodup := by
      refine List.pairwise_map.2 (hplaces.imp fun hne heq => ?_)
      exact hne (congrArg Prod.snd heq)
    have hset : w.storedNodes h =
        ↑((w.entries predicate log h s).map fun n => (n.kind, n.place)).toFinset := by
      ext x
      rw [← exists_mem_entries_iff hok htrue]
      simp
    rw [hset, Set.ncard_coe_finset, List.toFinset_card_of_nodup hnodup, List.length_map]

/-! ### An unshared clause -/

theorem rowsDistinct_hinting : hinting.RowsDistinct := by
  intro kind order horder
  have hregistry : hinting.registry = Registry.empty.insert "hint" ["name"] := rfl
  rw [hregistry, Registry.childOrder_insert] at horder
  split at horder
  · cases horder
    decide
  · simp at horder

/-- The clause with a hint shares nothing, and its full inspection enters the clause, the hint, the
name in it and the text of the name once each. -/
theorem entries_hinted :
    hinting.RowsDistinct ∧ hinting.Unshared .hinted ∧
    (∀ n t, ((holdsAlways n).run t).1 = true) ∧
    ((hinting.inspect holdsAlways .hinted).run.run 0).1 = .ok () ∧
    (hinting.entries holdsAlways (fun _ => pure ()) .hinted 0).Pairwise
      (fun a b => a.same b = false) ∧
    (hinting.entries holdsAlways (fun _ => pure ()) .hinted 0).length =
      Set.ncard (hinting.storedNodes .hinted) ∧
    (hinting.entries holdsAlways (fun _ => pure ()) .hinted 0).map (fun n => (n.kind, n.place)) =
      [(.whereClause, .cell 0), (.dialect, .cell 1), (.identifier, .cell 2),
        (.ident, .field (.cell 2) "ident")] := by
  have hunshared : hinting.Unshared .hinted := by decide
  have htrue : ∀ n t, ((holdsAlways n).run t).1 = true := fun _ _ => rfl
  have hok : ((hinting.inspect holdsAlways .hinted).run.run 0).1 = .ok () := by cbv
  obtain ⟨hdistinct, hlength⟩ := entries_distinct hinting rowsDistinct_hinting .hinted hunshared
    holdsAlways (fun _ => pure ()) htrue 0 hok
  exact ⟨rowsDistinct_hinting, hunshared, htrue, hok, hdistinct, hlength, by cbv⟩

end Walker

end SqlTree
