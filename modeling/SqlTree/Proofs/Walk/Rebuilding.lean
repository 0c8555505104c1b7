import Mathlib
import SqlTree.Proofs.Walk.Inspection
import SqlTree.Proofs.Walk.Tour

/-!
# Rebuilding a tree from what is told

A leaving names no node, and still a visitor can rebuild the tree that it is led through: it keeps
a stack, with the node on it that it has descended into last, and under each node on the stack the
trees that are complete.

* `Rebuild` is the state of such a visitor, `Rebuild.tell` what an event does to it, and
  `Visitor.rebuilder` the visitor.
* `Tree.cut` is the tree that is to be rebuilt: the unfolding, without what is below the nodes
  where the predicate fails.
* `Tree.Runs.rebuilds`: the invariant of a run. Whenever an occurrence is entered, the nodes on the
  stack are those above it, and a run that succeeds leaves one more complete tree behind.

Main statement: `Walker.walk_encodes_unfolding`.
-/

set_option autoImplicit false

namespace SqlTree

variable {α : Type}

/-- A tree with any number of children at each node, and labels. -/
inductive Rose (α : Type) where
  | node (label : α) (below : List (Rose α))

/-! ### A stack of open nodes -/

/-- What a visitor knows that rebuilds a tree. -/
structure Rebuild (α : Type) where
  /-- The nodes that are not left yet, the last one first, with the complete trees under each. -/
  stack : List (α × List (Rose α)) := []
  /-- The complete trees that are under no node. -/
  complete : List (Rose α) := []

namespace Rebuild

/-- Records a tree under the top of the stack. -/
def attach (s : Rebuild α) (t : Rose α) : Rebuild α :=
  match s.stack with
  | [] => { s with complete := s.complete ++ [t] }
  | (x, below) :: rest => { s with stack := (x, below ++ [t]) :: rest }

/-- Puts a node on the stack. -/
def push (s : Rebuild α) (x : α) : Rebuild α :=
  { s with stack := (x, []) :: s.stack }

/-- Takes the top off the stack, and records it with the trees under it. -/
def pop (s : Rebuild α) : Rebuild α :=
  match s.stack with
  | [] => s
  | (x, below) :: rest => { s with stack := rest }.attach (.node x below)

/-- The nodes on the stack, the first one first. -/
def chain (s : Rebuild α) : List α :=
  (s.stack.map Prod.fst).reverse

@[simp]
theorem chain_push (s : Rebuild α) (x : α) : (s.push x).chain = s.chain ++ [x] := by
  simp [chain, push]

@[simp]
theorem chain_attach (s : Rebuild α) (t : Rose α) : (s.attach t).chain = s.chain := by
  obtain ⟨stack, complete⟩ := s
  cases stack <;> simp [chain, attach]

theorem foldl_attach_cons (x : α) (rest : List (α × List (Rose α))) (complete : List (Rose α)) :
    (ts below : List (Rose α)) →
    ts.foldl attach ⟨(x, below) :: rest, complete⟩ = ⟨(x, below ++ ts) :: rest, complete⟩
  | [], below => by simp
  | t :: ts, below => by
    rw [List.foldl_cons, attach, foldl_attach_cons x rest complete ts (below ++ [t])]
    simp

/-- What is recorded after a node has been put on the stack stands under it. -/
theorem foldl_attach_push (s : Rebuild α) (x : α) (ts : List (Rose α)) :
    ts.foldl attach (s.push x) = { s with stack := (x, ts) :: s.stack } :=
  foldl_attach_cons x s.stack s.complete ts []

/-- A node with the trees under it is recorded as one tree. -/
theorem pop_foldl_attach_push (s : Rebuild α) (x : α) (ts : List (Rose α)) :
    (ts.foldl attach (s.push x)).pop = s.attach (.node x ts) := by
  rw [foldl_attach_push, pop]

@[simp]
theorem chain_foldl_attach (ts : List (Rose α)) (s : Rebuild α) :
    (ts.foldl attach s).chain = s.chain := by
  induction ts generalizing s with
  | nil => rfl
  | cons t ts ih => rw [List.foldl_cons, ih, chain_attach]

theorem exists_stack_of_chain_eq_concat {s : Rebuild α} {labels : List α} {x : α}
    (hs : s.chain = labels ++ [x]) : ∃ below rest, s.stack = (x, below) :: rest := by
  rw [chain, List.reverse_eq_iff, List.reverse_append, List.reverse_singleton,
    List.singleton_append] at hs
  obtain ⟨⟨y, below⟩, rest, hstack, rfl, -⟩ := List.map_eq_cons_iff.1 hs
  exact ⟨below, rest, hstack⟩

/-- What an event does: a node is put on the stack if it is descended into and else recorded
without children, and a leaving takes the top off the stack. -/
def tell (key : Handle → α) (p : Handle → Bool) (s : Rebuild α) : Event → Rebuild α
  | .enter h => if p h then s.push (key h) else s.attach (.node (key h) [])
  | .leave => s.pop

theorem tell_enter_of_true {key : Handle → α} {p : Handle → Bool} {h : Handle} (hh : p h = true)
    (s : Rebuild α) : s.tell key p (.enter h) = s.push (key h) := by
  rw [tell, if_pos hh]

theorem tell_enter_of_false {key : Handle → α} {p : Handle → Bool} {h : Handle}
    (hh : p h = false) (s : Rebuild α) :
    s.tell key p (.enter h) = s.attach (.node (key h) []) := by
  rw [tell, hh]
  rfl

/-- A visitor that always descends need not know more of an entry than its key. -/
def hear (s : Rebuild α) : Option α → Rebuild α
  | some x => s.push x
  | none => s.pop

theorem foldl_tell_eq_foldl_hear (key : Handle → α) (events : List Event) (s : Rebuild α) :
    events.foldl (tell key fun _ => true) s =
      (events.map fun e => e.node?.map key).foldl hear s := by
  have hstep : tell key (fun _ => true) = fun s e => s.hear (e.node?.map key) := by
    funext s e
    cases e <;> rfl
  rw [List.foldl_map, hstep]

end Rebuild

/-- The visitor that rebuilds the tree below the nodes where the predicate holds. Of a node it
keeps what `key` tells of it. -/
def Visitor.rebuilder (key : Handle → α) (p : Handle → Bool) : Visitor Unit (Rebuild α) where
  visit
    | (), e => do
      modify (·.tell key p e)
      match e with
      | .enter h => return if p h then some () else none
      | .leave => return none

section Rebuilder

variable {w : Walker} {key : Handle → α} {p : Handle → Bool}

theorem Visitor.follows_rebuilder : (Visitor.rebuilder key p).Follows () p :=
  fun _ _ => rfl

theorem Visitor.after_call_rebuilder (i : Unit) (e : Event) (s : Rebuild α) :
    ((Visitor.rebuilder key p).call i e s).after = s.tell key p e := by
  cases e <;> rfl

theorem Walker.announced_rebuilder (h : Handle) (s : Rebuild α) :
    w.announced (.rebuilder key p) h s = s :=
  w.announced_of_logged_eq (fun _ _ => rfl) h s

end Rebuilder

/-! ### The tree that is rebuilt -/

mutual

/-- The unfolding without what is below the nodes where the predicate fails. -/
def Tree.cut (key : Handle → α) (p : Handle → Bool) : Tree → Rose α
  | .node h below => .node (key h) (if p h then below.cut key p else [])
  | .stuck h _ => .node (key h) []

/-- The same for the children of a node. -/
def Forest.cut (key : Handle → α) (p : Handle → Bool) : Forest → List (Rose α)
  | .nil => []
  | .cons t f => t.cut key p :: f.cut key p

end

theorem Tree.cut_of_false {key : Handle → α} {p : Handle → Bool} {t : Tree}
    (ht : p t.handle = false) : t.cut key p = .node (key t.handle) [] := by
  cases t with
  | node h below =>
    have hh : p h = false := ht
    simp [Tree.cut, Tree.handle, hh]
  | stuck h e => rw [Tree.cut, Tree.handle]

mutual

/-- An unfolding that can be walked to its ends is known from its labels, if these tell nodes
apart. -/
theorem Tree.eq_of_cut_eq {key : Handle → α} (hkey : Function.Injective key) : (t t' : Tree) →
    t.passable (fun _ => true) = true → t'.passable (fun _ => true) = true →
    t'.cut key (fun _ => true) = t.cut key (fun _ => true) → t' = t
  | .node h below, .node h' below', ht, ht', hcut => by
    obtain ⟨hlabel, hbelow⟩ := Rose.node.inj hcut
    rw [hkey hlabel, below.eq_of_cut_eq hkey below' ht ht' hbelow]
  | .stuck _ _, _, ht, _, _ => nomatch ht
  | .node _ _, .stuck _ _, _, ht', _ => nomatch ht'

theorem Forest.eq_of_cut_eq {key : Handle → α} (hkey : Function.Injective key) :
    (f f' : Forest) → f.passable (fun _ => true) = true → f'.passable (fun _ => true) = true →
    f'.cut key (fun _ => true) = f.cut key (fun _ => true) → f' = f
  | .nil, .nil, _, _, _ => rfl
  | .nil, .cons _ _, _, _, hcut => nomatch hcut
  | .cons _ _, .nil, _, _, hcut => nomatch hcut
  | .cons t f, .cons t' f', hf, hf', hcut => by
    rw [Forest.passable, Bool.and_eq_true] at hf hf'
    obtain ⟨hfirst, hrest⟩ := List.cons.inj hcut
    rw [t.eq_of_cut_eq hkey t' hf.1 hf'.1 hfirst, f.eq_of_cut_eq hkey f' hf.2 hf'.2 hrest]

end

/-! ### The nodes above an occurrence -/

/-- The labels are those of the nodes above an occurrence, from the root down: of the nodes to
which the proper prefixes of its path lead. -/
def Walker.Lineage (w : Walker) (key : Handle → α) (root : Handle) (a : Path) (labels : List α) :
    Prop :=
  labels.map .ok = (List.range a.length).map fun k => (w.descend (a.take k) root).2.map key

namespace Walker.Lineage

variable {w : Walker} {key : Handle → α} {root n : Handle} {a : Path} {labels : List α}

theorem nil (w : Walker) (key : Handle → α) (root : Handle) : w.Lineage key root [] [] :=
  rfl

/-- Above a child there is its parent, and what is above that. -/
theorem concat (hlabels : w.Lineage key root a labels) (hn : (w.descend a root).2 = .ok n)
    (k : Nat) : w.Lineage key root (a ++ [k]) (labels ++ [key n]) := by
  rw [Lineage, List.map_append, hlabels, List.length_append, List.length_singleton,
    List.range_succ, List.map_append]
  congr 1
  · refine List.map_congr_left fun m hm => ?_
    rw [List.take_append_of_le_length (List.mem_range.1 hm).le]
  · simp [hn, Except.map]

end Walker.Lineage

/-! ### The invariant of a run -/

section Runs

variable {w : Walker} {key : Handle → α} {p : Handle → Bool} {root : Handle}

/-- When an occurrence is entered, the nodes on the stack are those above it; when it is left, it
is on top of them. -/
def Walker.Stacked (w : Walker) (key : Handle → α) (root : Handle)
    (x : Path × Call Unit (Rebuild α)) : Prop :=
  match x.2.event with
  | .enter _ => w.Lineage key root x.1 x.2.before.chain
  | .leave => ∃ n labels, (w.descend x.1 root).2 = .ok n ∧ w.Lineage key root x.1 labels ∧
      x.2.before.chain = labels ++ [key n]

mutual

/-- **A run that succeeds rebuilds its tree.** -/
theorem Tree.Runs.rebuilds {a : Path} {i : Unit} {t : Tree} {s : Rebuild α}
    {r : Run Unit (Rebuild α)} (hr : t.Runs w (.rebuilder key p) a i s r)
    (hok : r.result = .ok ()) {h : Handle} (hh : (w.descend a root).2 = .ok h)
    (ht : w.unfold h = t) (hs : w.Lineage key root a s.chain) :
    r.state = s.attach (t.cut key p) ∧ ∀ x ∈ r.trail, w.Stacked key root x := by
  cases hr with
  | pruned henter =>
    have hp := Visitor.follows_rebuilder.of_answer_eq_none henter
    refine ⟨?_, fun x hx => ?_⟩
    · rw [Tree.cut_of_false hp, ← Rebuild.tell_enter_of_false hp]
      rfl
    · obtain rfl := List.mem_singleton.1 hx
      exact hs
  | refused henter => cases hok
  | @left _ _ _ h₀ below _ s' trail henter hbelow =>
    obtain ⟨hp, -⟩ := Visitor.follows_rebuilder.of_answer_eq_some henter
    obtain ⟨rfl, cs, hcs, hforest⟩ := Walker.children_of_unfold_eq_node ht
    rw [Walker.announced_rebuilder, Visitor.after_call_rebuilder, Rebuild.tell_enter_of_true hp]
      at hbelow
    -- below the node, the node is on the stack
    obtain ⟨hstate, hstacked⟩ :=
      hbelow.rebuilds rfl hh hcs hforest hs (Rebuild.chain_push s (key h))
    obtain rfl : s' = (below.cut key p).foldl Rebuild.attach (s.push (key h)) := hstate
    refine ⟨?_, fun x hx => ?_⟩
    · rw [Tree.cut, if_pos hp, ← Rebuild.pop_foldl_attach_push]
      rfl
    · rcases mem_enclosed.1 hx with rfl | hx | rfl
      · exact hs
      · exact hstacked x hx
      · exact ⟨h, s.chain, hh, hs, by simp [Visitor.call]⟩
  | broken henter hbelow => cases hok

theorem Forest.Runs.rebuilds {a : Path} {k : Nat} {i : Unit} {f : Forest} {s : Rebuild α}
    {r : Run Unit (Rebuild α)} (hr : f.Runs w (.rebuilder key p) a k i s r)
    (hok : r.result = .ok ()) {h : Handle} (hh : (w.descend a root).2 = .ok h)
    {cs : List Handle} (hcs : w.children h = .ok cs)
    (hf : f = .ofList ((cs.drop k).map w.unfold)) {labels : List α}
    (hlabels : w.Lineage key root a labels) (hs : s.chain = labels ++ [key h]) :
    r.state = (f.cut key p).foldl Rebuild.attach s ∧ ∀ x ∈ r.trail, w.Stacked key root x := by
  cases hr with
  | nil => exact ⟨rfl, nofun⟩
  | @cons _ _ _ t f _ s' trail r hfirst hrest =>
    cases hdrop : cs.drop k with
    | nil =>
      rw [hdrop] at hf
      cases hf
    | cons c rest =>
      rw [hdrop] at hf
      obtain ⟨ht, hf⟩ := Forest.cons.inj hf
      have hk : cs[k]? = some c := by rw [← List.head?_drop, hdrop, List.head?_cons]
      have hc : (w.descend (a ++ [k]) root).2 = .ok c :=
        Walker.descend_concat_eq_ok_iff.2 ⟨h, cs, hh, hcs, hk⟩
      obtain rfl : rest = cs.drop (k + 1) := by rw [← List.tail_drop, hdrop, List.tail_cons]
      obtain ⟨hstate, hstacked⟩ := hfirst.rebuilds rfl hc ht.symm (hs ▸ hlabels.concat hh k)
      obtain rfl : s' = s.attach (t.cut key p) := hstate
      -- a complete tree is not on the stack
      obtain ⟨hstate', hstacked'⟩ :=
        hrest.rebuilds hok hh hcs hf hlabels ((s.chain_attach _).trans hs)
      exact ⟨hstate', List.forall_mem_append.2 ⟨hstacked, hstacked'⟩⟩
  | stop hfirst => cases hok

end

end Runs

/-! ### Walks of the visitor that rebuilds -/

namespace Walker

/-- What is known of a walk of the visitor that rebuilds, from an empty stack on. -/
structure Rebuilds (w : Walker) (key : Handle → α) (p : Handle → Bool) (h : Handle) : Prop where
  /-- The trail places the calls in the unfolding. -/
  places : w.Places h (w.calls (.rebuilder key p) () h {}) (w.trail (.rebuilder key p) () h {})
  /-- When an occurrence is entered, the nodes on the stack are those above it. -/
  entering : ∀ a c n, (a, c) ∈ w.trail (.rebuilder key p) () h {} → c.event = .enter n →
    w.Lineage key h a c.before.chain
  /-- No leaving finds the stack empty, and the node that it takes off is the one that is left. -/
  leaving : ∀ a c, (a, c) ∈ w.trail (.rebuilder key p) () h {} → c.event = .leave →
    ∃ n below rest, (w.descend a h).2 = .ok n ∧ c.before.stack = (key n, below) :: rest
  /-- In the end the stack is empty, and the one tree that is complete is the unfolding without
  what is below the nodes where the predicate fails. -/
  rebuilt : ((w.walk (.rebuilder key p) () h).run.run {}).2 = ⟨[], [(w.unfold h).cut key p]⟩

theorem rebuilds_of_walk_ok {w : Walker} {key : Handle → α} {p : Handle → Bool} {h : Handle}
    (hok : ((w.walk (.rebuilder key p) () h).run.run {}).1 = .ok ()) : w.Rebuilds key p h := by
  rw [run_walk] at hok
  have hroot : (w.descend [] h).2 = .ok h := rfl
  obtain ⟨hstate, hstacked⟩ :=
    (w.runs (.rebuilder key p) () h {}).rebuilds hok hroot rfl (.nil w key h)
  refine ⟨w.places_trail _ _ h _, fun a c n hc hevent => ?_, fun a c hc hevent => ?_, ?_⟩
  · have hx := hstacked (a, c) hc
    simp only [Stacked, hevent] at hx
    exact hx
  · have hx := hstacked (a, c) hc
    simp only [Stacked, hevent] at hx
    obtain ⟨n, labels, hn, -, hchain⟩ := hx
    obtain ⟨below, rest, hstack⟩ := Rebuild.exists_stack_of_chain_eq_concat hchain
    exact ⟨n, below, rest, hn, hstack⟩
  · rw [run_walk]
    exact hstate

/-- The last state of the visitor that rebuilds is what its calls have told it. -/
theorem state_rebuilder (w : Walker) (key : Handle → α) (p : Handle → Bool) (h : Handle) :
    ((w.walk (.rebuilder key p) () h).run.run {}).2 =
      ((w.calls (.rebuilder key p) () h {}).map Call.event).foldl (Rebuild.tell key p) {} := by
  -- the record of the calls determines the state
  let read (t : Rebuild α × List (Call Unit (Rebuild α))) : Rebuild α :=
    (t.2.map Call.event).foldl (Rebuild.tell key p) {}
  have hread : Visitor.Carries read (Visitor.rebuilder key p).recorded (.rebuilder key p) := by
    refine ⟨fun i e t => ?_, fun i e t => ?_, fun entry t => rfl⟩
    · cases e <;> rfl
    · obtain ⟨s, calls⟩ := t
      rw [Visitor.after_call_rebuilder, Visitor.after_call_recorded]
      simp [read, Visitor.call]
  exact congrArg Prod.snd (hread.run_walk () h ({}, []))

/-- Visitors that follow the same predicate are told of the same events. -/
theorem events_eq_of_follows {ι σ ι' σ' : Type} {w : Walker} {h : Handle} {r : Handle → Bool}
    {v : Visitor ι σ} {i : ι} {s : σ} {v' : Visitor ι' σ'} {i' : ι'} {s' : σ'}
    (hv : v.Follows i r) (hv' : v'.Follows i' r) (hok : ((w.walk v i h).run.run s).1 = .ok ()) :
    (w.calls v' i' h s').map Call.event = (w.calls v i h s).map Call.event := by
  have hok' : ((w.walk v' i' h).run.run s').1 = .ok () :=
    (walk_eq_ok_iff_passable hv').2 ((walk_eq_ok_iff_passable hv).1 hok)
  have hevents : told (w.trail v' i' h s') = told (w.trail v i h s) :=
    (told_trail hv' hok').trans (told_trail hv hok).symm
  rw [← map_snd_trail, ← map_snd_trail, List.map_map, List.map_map]
  have hforget := congrArg (List.map Prod.snd) hevents
  rw [told, told, List.map_map, List.map_map] at hforget
  exact hforget

/-- The unfolding can be read off the events of a walk that descends everywhere. -/
theorem cut_of_events {ι σ : Type} {w : Walker} {h : Handle} {v : Visitor ι σ} {i : ι} {s : σ}
    (key : Handle → α) (hv : v.Follows i fun _ => true)
    (hok : ((w.walk v i h).run.run s).1 = .ok ()) :
    ((w.calls v i h s).map fun c => c.event.node?.map key).foldl Rebuild.hear {} =
      ⟨[], [(w.unfold h).cut key fun _ => true]⟩ := by
  have hv' : (Visitor.rebuilder key fun _ => true).Follows () fun _ => true :=
    Visitor.follows_rebuilder
  have hok' : ((w.walk (.rebuilder key fun _ => true) () h).run.run {}).1 = .ok () :=
    (walk_eq_ok_iff_passable hv').2 ((walk_eq_ok_iff_passable hv).1 hok)
  have hstate := w.state_rebuilder key (fun _ => true) h
  rw [(rebuilds_of_walk_ok hok').rebuilt, events_eq_of_follows hv hv' hok,
    Rebuild.foldl_tell_eq_foldl_hear, List.map_map] at hstate
  exact hstate.symm

/-- **What is told encodes the tree.** Let the visitor that rebuilds be walked through a tree. If
the walk succeeds, then no leaving finds its stack empty, at every entry the stack holds the nodes
above the occurrence from the root down, and in the end the stack is empty and the tree that was
rebuilt is the unfolding, cut below the nodes where the predicate fails.

So two walks that descend everywhere and are told the same have the same unfolding: up to what
`key` tells of a node, if the events agree up to that, and altogether, if `key` tells nodes
apart. -/
theorem walk_encodes_unfolding (key : Handle → α) :
    (∀ (w : Walker) (h : Handle) (p : Handle → Bool),
      ((w.walk (.rebuilder key p) () h).run.run {}).1 = .ok () → w.Rebuilds key p h) ∧
    (∀ (w w' : Walker) (h h' : Handle) {ι σ ι' σ' : Type} (v : Visitor ι σ) (i : ι) (s : σ)
      (v' : Visitor ι' σ') (i' : ι') (s' : σ'),
      (v.Follows i fun _ => true) → (v'.Follows i' fun _ => true) →
      ((w.walk v i h).run.run s).1 = .ok () → ((w'.walk v' i' h').run.run s').1 = .ok () →
      ((w'.calls v' i' h' s').map fun c => c.event.node?.map key) =
        ((w.calls v i h s).map fun c => c.event.node?.map key) →
      ((w'.unfold h').cut key fun _ => true) = ((w.unfold h).cut key fun _ => true) ∧
      (Function.Injective key → w'.unfold h' = w.unfold h)) := by
  refine ⟨fun w h p hok => rebuilds_of_walk_ok hok, ?_⟩
  intro w w' h h' ι σ ι' σ' v i s v' i' s' hv hv' hok hok' hevents
  have hcut : ((w'.unfold h').cut key fun _ => true) = ((w.unfold h).cut key fun _ => true) := by
    have hstate := cut_of_events key hv' hok'
    rw [hevents, cut_of_events key hv hok] at hstate
    exact (List.singleton_inj.1 (congrArg Rebuild.complete hstate)).symm
  refine ⟨hcut, fun hkey => ?_⟩
  exact Tree.eq_of_cut_eq hkey _ _ ((walk_eq_ok_iff_passable hv).1 hok)
    ((walk_eq_ok_iff_passable hv').1 hok') hcut

/-- The comparison without what is below its operands, and the whole of it under two
registries. -/
theorem encodes_selfCompared :
    let p : Handle → Bool := fun n => n.kind ≠ .identifier
    let v : Visitor Unit Unit := .inspector fun _ => pure true
    (((hinting.walk (.rebuilder Handle.kind p) () .selfCompared).run.run {}).1 = .ok () ∧
      hinting.Rebuilds Handle.kind p .selfCompared ∧
      (hinting.unfold .selfCompared).cut Handle.kind p =
        .node .binaryExpr [.node .identifier [], .node .operator [], .node .identifier []]) ∧
    (v.Follows () fun _ => true) ∧
    ((hinting.walk v () .selfCompared).run.run ()).1 = .ok () ∧
    ((({} : Walker).walk v () .selfCompared).run.run ()).1 = .ok () ∧
    ({} : Walker).unfold .selfCompared = hinting.unfold .selfCompared := by
  intro p v
  have hpruned : ((hinting.walk (.rebuilder Handle.kind p) () .selfCompared).run.run {}).1 =
      .ok () := by cbv
  have hv : v.Follows () fun _ => true := Visitor.follows_inspector fun _ => true
  have hok : ((hinting.walk v () .selfCompared).run.run ()).1 = .ok () := by cbv
  have hok' : ((({} : Walker).walk v () .selfCompared).run.run ()).1 = .ok () := by cbv
  have hevents : ((({} : Walker).calls v () .selfCompared ()).map fun c => c.event.node?.map id) =
      (hinting.calls v () .selfCompared ()).map fun c => c.event.node?.map id := by cbv
  refine ⟨⟨hpruned, (walk_encodes_unfolding Handle.kind).1 hinting .selfCompared p hpruned,
    by cbv⟩, hv, hok, hok', ?_⟩
  exact ((walk_encodes_unfolding id).2 hinting {} .selfCompared .selfCompared v () () v () () hv hv
    hok hok' hevents).2 Function.injective_id

end Walker

end SqlTree
