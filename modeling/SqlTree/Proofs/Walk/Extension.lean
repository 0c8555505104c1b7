import Mathlib
import SqlTree.Proofs.Walk.Failure
import SqlTree.Proofs.Walk.Inspection

/-!
# Larger registries

A walker that keeps the rows of another one and knows further kinds walks every tree in the same
way, as far as the other one gets. What matters are only the kinds that occur in the tree.

* `Walker.Extends`: at and below a node, one walker has the rows that another one has.
* `Tree.Runs.extend`: a run of the smaller walker is repeated by the larger one. Both stay in
  lockstep up to the first kind that the smaller one does not know; there its run ends, and the
  larger one goes on.
* `Handle.DialectFree`: a tree without dialect nodes, on which the registry does not matter.

Main statement: `Walker.walk_conservative`.
-/

set_option autoImplicit false

namespace SqlTree

variable {ι σ : Type}

namespace Walker

/-- At and below a node, `w'` has all the rows that `w` has: every dialect kind that occurs there
and has a row in `w` has the same row in `w'`. -/
def Extends (w' w : Walker) (h : Handle) : Prop :=
  ∀ p n kind order, (w.descend p h).2 = .ok n → n.dialectKind? = some kind →
    w.registry.childOrder kind = some order → w'.registry.childOrder kind = some order

namespace Extends

variable {w w' : Walker} {h : Handle}

/-- Where the smaller walker has a row, the larger one has the same and reports the same. -/
theorem row_eq (hext : w'.Extends w h) {row : List String} (hrow : w.row h = .ok row) :
    w'.row h = .ok row ∧ w'.report h = w.report h := by
  cases hkind : h.dialectKind? with
  | none =>
    simp only [Walker.row, report, hkind] at hrow ⊢
    exact ⟨hrow, trivial⟩
  | some kind =>
    cases horder : w.registry.childOrder kind with
    | none => simp [Walker.row, hkind, horder] at hrow
    | some order =>
      have horder' := hext [] h kind order rfl hkind horder
      simp only [Walker.row, report, hkind, horder, horder'] at hrow ⊢
      exact ⟨hrow, trivial⟩

theorem children_eq (hext : w'.Extends w h) {cs : List Handle} (hcs : w.children h = .ok cs) :
    w'.children h = .ok cs ∧ w'.report h = w.report h := by
  rw [Walker.children_eq] at hcs
  cases hrow : w.row h with
  | error e => simp [hrow, Except.map] at hcs
  | ok row =>
    obtain ⟨hrow', hreport⟩ := hext.row_eq hrow
    rw [hrow] at hcs
    rw [Walker.children_eq, hrow']
    exact ⟨hcs, hreport⟩

/-- What holds at and below a node holds at and below its children. -/
theorem child (hext : w'.Extends w h) {cs : List Handle} (hcs : w.children h = .ok cs)
    {c : Handle} (hc : c ∈ cs) : w'.Extends w c := by
  obtain ⟨k, hk⟩ := List.mem_iff_getElem?.1 hc
  intro p n kind order hn hkind horder
  have hstep : (w.descend (k :: p) h).2 = .ok n := by
    rw [descend]
    simpa [hcs, hk] using hn
  exact hext (k :: p) n kind order hstep hkind horder

end Extends

/-- Walkers that report the same announce a node alike. -/
theorem announced_eq_of_report_eq {w w' : Walker} {v : Visitor ι σ} {h : Handle}
    (hreport : w'.report h = w.report h) : w'.announced v h = w.announced v h := by
  funext s
  rw [announced, announced, announce, announce, hreport]

end Walker

/-! ### Lockstep -/

section Lockstep

variable {w w' : Walker} {v : Visitor ι σ}

mutual

/-- **The larger walker repeats the run of the smaller one**, and goes on where that one fails. -/
theorem Tree.Runs.extend {p : Path} {i : ι} {t : Tree} {s : σ} {r : Run ι σ}
    (hr : t.Runs w v p i s r) (h : Handle) (ht : w.unfold h = t) (hext : w'.Extends w h) :
    ∃ r', (w'.unfold h).Runs w' v p i s r' ∧ (r.result = .ok () → r' = r) ∧
      r.trail <+: r'.trail := by
  cases hr with
  | pruned henter =>
    obtain rfl : h = t.handle := by rw [← ht, w.handle_unfold]
    have hrun := Tree.Runs.pruned (w := w') (v := v) (p := p) (i := i) (s := s)
      (t := w'.unfold t.handle) (by rwa [w'.handle_unfold])
    rw [w'.handle_unfold] at hrun
    exact ⟨_, hrun, fun _ => rfl, List.prefix_refl _⟩
  | refused henter =>
    -- here the smaller walker stops; whatever the larger one does starts with the same entry
    obtain ⟨rfl, -⟩ := Walker.children_of_unfold_eq_stuck ht
    have hrun := (w'.unfold h).runs w' v p i s
    obtain ⟨rest, htrail⟩ := hrun.exists_cons
    rw [w'.handle_unfold] at htrail
    refine ⟨_, hrun, nofun, ?_⟩
    rw [htrail]
    exact ⟨rest, rfl⟩
  | @left p i j h₀ below s s' trail henter hbelow =>
    obtain ⟨rfl, cs, hcs, hforest⟩ := Walker.children_of_unfold_eq_node ht
    obtain ⟨hcs', hreport⟩ := hext.children_eq hcs
    obtain ⟨r', hbelow', hsame, -⟩ := hbelow.extend cs hforest fun c hc => hext.child hcs hc
    obtain rfl := hsame rfl
    rw [← Walker.announced_eq_of_report_eq hreport] at hbelow'
    rw [Walker.unfold_eq_node hcs']
    exact ⟨_, .left henter hbelow', fun _ => rfl, List.prefix_refl _⟩
  | @broken p i j h₀ below s s' trail e henter hbelow =>
    obtain ⟨rfl, cs, hcs, hforest⟩ := Walker.children_of_unfold_eq_node ht
    obtain ⟨hcs', hreport⟩ := hext.children_eq hcs
    obtain ⟨⟨trail', result', s''⟩, hbelow', -, hprefix⟩ :=
      hbelow.extend cs hforest fun c hc => hext.child hcs hc
    rw [← Walker.announced_eq_of_report_eq hreport] at hbelow'
    rw [Walker.unfold_eq_node hcs']
    cases result' with
    | error e' =>
      exact ⟨_, .broken henter hbelow', nofun,
        List.cons_prefix_cons.2 ⟨rfl, hprefix⟩⟩
    | ok =>
      refine ⟨_, .left henter hbelow', nofun, ?_⟩
      exact List.cons_prefix_cons.2 ⟨rfl, hprefix.trans (List.prefix_append trail' _)⟩

theorem Forest.Runs.extend {p : Path} {k : Nat} {j : ι} {f : Forest} {s : σ} {r : Run ι σ}
    (hr : f.Runs w v p k j s r) (cs : List Handle) (hf : f = .ofList (cs.map w.unfold))
    (hext : ∀ c ∈ cs, w'.Extends w c) :
    ∃ r', (Forest.ofList (cs.map w'.unfold)).Runs w' v p k j s r' ∧
      (r.result = .ok () → r' = r) ∧ r.trail <+: r'.trail := by
  cases hr with
  | nil =>
    cases cs with
    | nil => exact ⟨_, .nil, fun _ => rfl, List.prefix_refl _⟩
    | cons c cs => cases hf
  | cons hfirst hrest =>
    cases cs with
    | nil => cases hf
    | cons c cs =>
      obtain ⟨ht, hf⟩ := Forest.cons.inj hf
      obtain ⟨r₁, hfirst', hsame, -⟩ :=
        hfirst.extend c ht.symm (hext c List.mem_cons_self)
      obtain rfl := hsame rfl
      obtain ⟨r₂, hrest', hsame', hprefix⟩ :=
        hrest.extend cs hf fun d hd => hext d (List.mem_cons_of_mem c hd)
      refine ⟨_, .cons hfirst' hrest', fun hok => ?_, (List.prefix_append_right_inj _).2 hprefix⟩
      rw [hsame' hok]
  | stop hfirst =>
    cases cs with
    | nil => cases hf
    | cons c cs =>
      obtain ⟨ht, -⟩ := Forest.cons.inj hf
      obtain ⟨⟨trail', result', s''⟩, hfirst', -, hprefix⟩ :=
        hfirst.extend c ht.symm (hext c List.mem_cons_self)
      cases result' with
      | error e' => exact ⟨_, .stop hfirst', nofun, hprefix⟩
      | ok =>
        have hrest' := (Forest.ofList (cs.map w'.unfold)).runs w' v p (k + 1) j s''
        exact ⟨_, .cons hfirst' hrest', nofun,
          hprefix.trans (List.prefix_append _ _)⟩

end

end Lockstep

namespace Walker

variable {w w' : Walker} {h : Handle}

/-- Where the smaller walker succeeds, the larger one does the same. -/
theorem Extends.run_eq (hext : w'.Extends w h) (v : Visitor ι σ) (i : ι) (s : σ)
    (hok : ((w.walk v i h).run.run s).1 = .ok ()) :
    (w'.walk v i h).run.run s = (w.walk v i h).run.run s ∧
      w'.calls v i h s = w.calls v i h s := by
  rw [w.run_walk] at hok ⊢
  obtain ⟨r', hruns', hsame, -⟩ := (w.runs v i h s).extend h rfl hext
  obtain rfl := hsame hok
  exact ⟨hruns'.walk h rfl, by rw [calls_eq_of_runs hruns', calls_eq_of_runs (w.runs v i h s)]⟩

/-- Where the smaller walker succeeds, the larger one reports the same. -/
theorem Extends.journal_eq (hext : w'.Extends w h) (v : Visitor ι σ) (i : ι) (s : σ)
    (hok : ((w.walk v i h).run.run s).1 = .ok ()) : w'.journal v i h s = w.journal v i h s := by
  -- the journal is part of the state of the visitors that keep it
  have hforget := v.carries_journaled.run_walk (w := w) i h (s, [])
  have hok' : ((w.walk v.journaled i h).run.run (s, [])).1 = .ok () := by
    rw [hforget] at hok
    exact hok
  rw [journal, journal, (hext.run_eq v.journaled i (s, []) hok').1]

/-- However the smaller walker ends, the larger one makes its calls first. -/
theorem Extends.calls_prefix (hext : w'.Extends w h) (v : Visitor ι σ) (i : ι) (s : σ) :
    w.calls v i h s <+: w'.calls v i h s := by
  obtain ⟨r', hruns', -, hprefix⟩ := (w.runs v i h s).extend h rfl hext
  rw [calls_eq_of_runs hruns', calls_eq_of_runs (w.runs v i h s)]
  exact hprefix.map Prod.snd

end Walker

/-! ### Trees without dialect nodes -/

/-- There is no dialect node at or below a node. The walker without rows sees all of the tree
down to the first dialect node on each path. -/
def Handle.DialectFree (h : Handle) : Prop :=
  ∀ p n, (({} : Walker).descend p h).2 = .ok n → n.dialectKind? = none

theorem Handle.DialectFree.of_children {h : Handle} (hkind : h.dialectKind? = none)
    {cs : List Handle} (hcs : ({} : Walker).children h = .ok cs)
    (hbelow : ∀ c ∈ cs, c.DialectFree) : h.DialectFree := by
  intro p n hn
  cases p with
  | nil =>
    obtain rfl : h = n := Except.ok.inj hn
    exact hkind
  | cons k p =>
    rw [Walker.descend] at hn
    cases hk : cs[k]? with
    | none => simp [hcs, hk] at hn
    | some c =>
      have hc : (({} : Walker).descend p c).2 = .ok n := by simpa [hcs, hk] using hn
      exact hbelow c (List.mem_of_getElem? hk) p n hc

/-- What is below a tree without dialect nodes has none either. -/
theorem Handle.DialectFree.child {h : Handle} (hfree : h.DialectFree) {cs : List Handle}
    (hcs : ({} : Walker).children h = .ok cs) {c : Handle} (hc : c ∈ cs) : c.DialectFree := by
  obtain ⟨k, hk⟩ := List.mem_iff_getElem?.1 hc
  intro p n hn
  have hstep : (({} : Walker).descend (k :: p) h).2 = .ok n := by
    rw [Walker.descend]
    simpa [hcs, hk] using hn
  exact hfree (k :: p) n hstep

namespace Walker

variable {h : Handle}

/-- On a tree without dialect nodes every walker has the rows of every other. -/
theorem extends_of_dialectFree (w : Walker) (hfree : h.DialectFree) : w.Extends {} h := by
  intro p n kind order hn hkind _
  rw [hfree p n hn] at hkind
  cases hkind

/-- On a tree without dialect nodes no walk fails. -/
theorem walk_ok_of_dialectFree (hfree : h.DialectFree) (v : Visitor ι σ) (i : ι) (s : σ) :
    ((({} : Walker).walk v i h).run.run s).1 = .ok () := by
  rw [run_walk]
  cases hresult : (({} : Walker).run v i h s).result with
  | ok => rfl
  | error e =>
    obtain ⟨kind⟩ := e
    obtain ⟨p, c, hc, ⟨n, j, hevent, -, hkind, -⟩, -⟩ := exists_refuses hresult
    have hnone := hfree p n (descend_of_mem_trail hc hevent)
    rw [hkind] at hnone
    cases hnone

/-- **Larger registries are conservative.** Let `w'` have all rows of `w` for the kinds that occur
at or below a node. Where the walk of `w` succeeds, the walk of `w'` has the same result, last
state, calls and log entries; where it fails, its calls are the first calls of the walk of `w'`.
On a tree without dialect nodes the walk and the inspection of every walker are those of the walker
without rows, and do not fail. -/
theorem walk_conservative (w w' : Walker) (h : Handle) :
    (w'.Extends w h → ∀ {ι σ : Type} (v : Visitor ι σ) (i : ι) (s : σ),
      (((w.walk v i h).run.run s).1 = .ok () →
        (w'.walk v i h).run.run s = (w.walk v i h).run.run s ∧
        w'.calls v i h s = w.calls v i h s ∧ w'.journal v i h s = w.journal v i h s) ∧
      (∀ e, ((w.walk v i h).run.run s).1 = .error e →
        w.calls v i h s <+: w'.calls v i h s)) ∧
    (h.DialectFree →
      (∀ {ι σ : Type} (v : Visitor ι σ) (i : ι) (s : σ),
        ((w.walk v i h).run.run s).1 = .ok () ∧
        (w.walk v i h).run.run s = (({} : Walker).walk v i h).run.run s ∧
        w.calls v i h s = ({} : Walker).calls v i h s ∧
        w.journal v i h s = ({} : Walker).journal v i h s) ∧
      (∀ {σ : Type} (predicate : Handle → StateM σ Bool) (log : LogEvent → StateM σ Unit) (s : σ),
        ((w.inspect predicate h log).run.run s).1 = .ok () ∧
        (w.inspect predicate h log).run.run s =
          (({} : Walker).inspect predicate h log).run.run s)) := by
  refine ⟨fun hext _ _ v i s => ⟨fun hok => ?_, fun e _ => hext.calls_prefix v i s⟩,
    fun hfree => ?_⟩
  · obtain ⟨hrun, hcalls⟩ := hext.run_eq v i s hok
    exact ⟨hrun, hcalls, hext.journal_eq v i s hok⟩
  · have hext := w.extends_of_dialectFree hfree
    refine ⟨fun v i s => ?_, fun predicate log s => ?_⟩
    · have hok := walk_ok_of_dialectFree hfree v i s
      obtain ⟨hrun, hcalls⟩ := hext.run_eq v i s hok
      exact ⟨hrun ▸ hok, hrun, hcalls, hext.journal_eq v i s hok⟩
    · have hok := walk_ok_of_dialectFree hfree (.inspector predicate log) () s
      obtain ⟨hrun, -⟩ := hext.run_eq (.inspector predicate log) () s hok
      exact ⟨by rw [inspect, hrun]; exact hok, hrun⟩

/-- A walker that knows one more kind than the clause with a hint needs. -/
def hintingMore : Walker where
  registry := hinting.registry.insert "other" []

theorem hintingMore_extends (h : Handle) : hintingMore.Extends hinting h := by
  intro p n kind order _ _ horder
  have hne : kind ≠ "other" := by
    rintro rfl
    have hnone : hinting.registry.childOrder "other" = none := by decide
    rw [hnone] at horder
    cases horder
  rw [hintingMore, Registry.childOrder_insert, if_neg hne]
  exact horder

theorem dialectFree_selfCompared : Handle.selfCompared.DialectFree := by
  have hleaf : ∀ c : Handle, c.dialectKind? = none → ({} : Walker).children c = .ok [] →
      c.DialectFree := fun c hkind hcs => .of_children hkind hcs nofun
  have hname : Handle.DialectFree ⟨.cell 1, .identifier, Node.named ⟨"a", none, ⟨0, 1⟩⟩⟩ := by
    refine .of_children rfl rfl fun c hc => ?_
    obtain rfl := List.mem_singleton.1 hc
    exact hleaf _ rfl rfl
  refine .of_children rfl rfl fun c hc => ?_
  rcases List.mem_cons.1 hc with rfl | hc
  · exact hname
  rcases List.mem_cons.1 hc with rfl | hc
  · exact hleaf _ rfl rfl
  · obtain rfl := List.mem_singleton.1 hc
    exact hname

/-- The clause with a hint under three registries, and the comparison under two. -/
theorem conservative_hinted :
    (hintingMore.Extends hinting .hinted ∧
      ((hinting.walk (.relay none) false .hinted).run.run 0).1 = .ok () ∧
      (hintingMore.walk (.relay none) false .hinted).run.run 0 =
        (hinting.walk (.relay none) false .hinted).run.run 0 ∧
      hintingMore.calls (.relay none) false .hinted 0 =
        hinting.calls (.relay none) false .hinted 0 ∧
      hintingMore.journal (.relay none) false .hinted 0 =
        hinting.journal (.relay none) false .hinted 0) ∧
    (hinting.Extends {} .hinted ∧
      ((({} : Walker).walk (.relay none) false .hinted).run.run 0).1 =
        .error (.unregistered "hint") ∧
      ({} : Walker).calls (.relay none) false .hinted 0 <+:
        hinting.calls (.relay none) false .hinted 0) ∧
    (Handle.selfCompared.DialectFree ∧
      ((hinting.walk (.relay none) false .selfCompared).run.run 0).1 = .ok ()) := by
  have hok : ((hinting.walk (.relay none) false .hinted).run.run 0).1 = .ok () := by cbv
  have he : ((({} : Walker).walk (.relay none) false .hinted).run.run 0).1 =
      .error (.unregistered "hint") := by cbv
  have hempty : hinting.Extends {} .hinted := fun _ _ kind _ _ _ horder => by
    have hnone : ({} : Walker).registry.childOrder kind = none := Registry.childOrder_empty kind
    rw [hnone] at horder
    cases horder
  exact ⟨⟨hintingMore_extends _, hok,
      ((walk_conservative hinting hintingMore .hinted).1 (hintingMore_extends _) _ _ _).1 hok⟩,
    ⟨hempty, he, ((walk_conservative {} hinting .hinted).1 hempty _ _ _).2 _ he⟩,
    dialectFree_selfCompared,
    ((walk_conservative hinting hinting .selfCompared).2 dialectFree_selfCompared).1 _ _ _ |>.1⟩

end Walker

end SqlTree
