import Mathlib
import SqlTree.Proofs.Node.ChildTable
import SqlTree.Proofs.Node.Storage
import SqlTree.Proofs.Walk.Indifference
import SqlTree.Proofs.Walk.Inspection

/-!
# Copies share what is not inline

A copy of a node holds the same, but is stored elsewhere. What is part of the node is copied with
it, and the parts of the parts, as deep as inline fields are nested. Everything else is found
through references and lists, and these lead to the same places from the copy as from the original.
A dialect node is taken to hand out the same nodes wherever it is stored.

* `Handle.copyTo` is the copy of a node at another place.
* `Kind.inlineFields` lists the fields of each kind that are copied with the node, and
  `Kind.isInline_eq` says that these are the fields of an inline type.
* `Walker.branches` lists the children of a node with the names of the fields that hold them, and
  `Walker.staysInside` says of a path that it goes through inline fields only.
* `Walker.descend_copyTo`: a path that stays inside leads to a copy of what it leads to in the
  original, and any other path leads to the same stored node.

Main statement: `Walker.inspect_copyTo`.
-/

set_option autoImplicit false

namespace SqlTree

/-! ### Copies -/

/-- A copy of a node that is stored at another place. -/
def Handle.copyTo (h : Handle) (place : Place) : Handle :=
  { h with place }

/-- What a copy has for a node of the original: a copy that is not the same if the node is part of
the original, and otherwise the node itself. -/
inductive Counterpart : Bool → Handle → Handle → Prop where
  | copied {n : Handle} {place : Place} (hplace : place ≠ n.place) :
      Counterpart true n (n.copyTo place)
  | shared {n : Handle} : Counterpart false n n

namespace Counterpart

variable {inside : Bool} {n n' : Handle}

theorem kind_eq (hn : Counterpart inside n n') : n'.kind = n.kind := by
  cases hn with
  | copied hplace => rfl
  | shared => rfl

theorem same_eq (hn : Counterpart inside n n') : n.same n' = !inside := by
  cases hn with
  | copied hplace => simp [Handle.same, Handle.copyTo, hplace.symm]
  | shared => simp [Handle.same]

theorem eq_of_shared (hn : Counterpart false n n') : n' = n := by
  cases hn
  rfl

end Counterpart

/-! ### The nodes in the fields of a copy -/

/-- The inline fields of a kind. -/
def Kind.inlineFields : Kind → List String
  | .identifier => ["ident"]
  | .binaryExpr | .unary | .setOperation => ["op"]
  | .cast | .alterDataTypeColumnAction => ["data_type"]
  | .function => ["name", "over"]
  | .windowSpec => ["window_frame"]
  | .windowFrame => ["units", "start_bound", "end_bound"]
  | .query => ["limit"]
  | .cte | .expressionWithAlias | .derived => ["alias"]
  | .select => ["selection"]
  | .qualifiedWildcard => ["prefix"]
  | .table => ["name", "alias"]
  | .qualifiedJoin | .naturalJoin => ["join_type"]
  | .insert | .copy | .alterTable | .referencesColumnSpec | .referenceKeyExpr => ["table_name"]
  | .update | .delete => ["table_name", "selection"]
  | .assignment => ["id"]
  | .createIndex => ["index_name", "table_name", "method_name", "selection"]
  | .columnDef => ["name", "data_type"]
  | .createTable | .createView | .columnConstraint | .tableConstraint | .removeColumnTableAction
  | .dropConstraintTableAction => ["name"]
  | .referentialTableConstraint => ["key_expr"]
  | .addColumnTableAction => ["column"]
  | .alterColumnTableAction => ["column_name"]
  | .addConstraintTableAction => ["constraint"]
  | _ => []

/-- Whether the field with a given name is inline in the nodes of a kind. -/
def Kind.isInline (k : Kind) (name : String) : Bool :=
  k.inlineFields.contains name

/-- **The inline fields are those of an inline type.** -/
theorem Kind.isInline_eq (k : Kind) (name : String) :
    k.isInline name = (k.shape.fields.lookup name).any FieldType.isInline := by
  have hdeclared : ∀ k ∈ all, ∀ f ∈ k.shape.fields, k.isInline f.1 = f.2.isInline := by
    decide +kernel
  have hlisted : ∀ k ∈ all, ∀ name ∈ k.inlineFields, k.shape.fields.lookup name ≠ none := by
    decide +kernel
  cases hlookup : k.shape.fields.lookup name with
  | some τ =>
    have hmem : (name, τ) ∈ k.shape.fields := by
      obtain ⟨l, l', hsplit, -⟩ := List.lookup_eq_some_iff.1 hlookup
      rw [hsplit]
      simp
    exact hdeclared k (mem_all k) (name, τ) hmem
  | none =>
    have hname : name ∉ k.inlineFields := fun hmem => hlisted k (mem_all k) name hmem hlookup
    simpa [isInline] using hname

/-- A node of an inline field is stored where the field is. -/
theorem Content.place_of_mem_held {place : Place} {c : Handle} : {τ : FieldType} →
    (x : Content τ) → τ.isInline = true → c ∈ x.held place → c.place = place
  | _, .flag _, hτ, _ => by cases hτ
  | _, .choice _, hτ, _ => by cases hτ
  | _, .lines _, hτ, _ => by cases hτ
  | .inline _, .inline _, _, hc => by
    obtain rfl := List.mem_singleton.1 hc
    rfl
  | _, .ref _ _ _ _, hτ, _ => by cases hτ
  | _, .arm _ _, hτ, _ => by cases hτ
  | _, .absent, _, hc => absurd hc List.not_mem_nil
  | _, .present content, hτ, hc => content.place_of_mem_held hτ hc
  | _, .list _ _, hτ, _ => by cases hτ

/-- At another place, an inline field holds copies. -/
theorem Content.held_of_inline (place place' : Place) : {τ : FieldType} → (x : Content τ) →
    τ.isInline = true → x.held place' = (x.held place).map (·.copyTo place')
  | _, .flag _, hτ => by cases hτ
  | _, .choice _, hτ => by cases hτ
  | _, .lines _, hτ => by cases hτ
  | .inline _, .inline _, _ => rfl
  | _, .ref _ _ _ _, hτ => by cases hτ
  | _, .arm _ _, hτ => by cases hτ
  | _, .absent, _ => rfl
  | _, .present content, hτ => content.held_of_inline place place' hτ
  | _, .list _ _, hτ => by cases hτ

/-- Any other field holds the same nodes wherever it is. -/
theorem Content.held_of_not_inline (place place' : Place) : {τ : FieldType} → (x : Content τ) →
    τ.isInline = false → x.held place' = x.held place
  | _, .flag _, _ => rfl
  | _, .choice _, _ => rfl
  | _, .lines _, _ => rfl
  | .inline _, .inline _, hτ => by cases hτ
  | _, .ref _ _ _ _, _ => rfl
  | _, .arm condition result, _ => by
    rw [Content.held, Content.held, condition.held_of_not_inline place place' rfl,
      result.held_of_not_inline place place' rfl]
  | _, .absent, _ => rfl
  | _, .present content, hτ => content.held_of_not_inline place place' hτ
  | _, .list _ _, _ => rfl

/-- Looking up a field by its name finds the same contents for every owner. -/
theorem Fields.exists_content (name : String) : {fs : List FieldDecl} → (xs : Fields fs) →
    (fs.lookup name = none ∧ ∀ owner, xs.heldAt owner name = []) ∨
      ∃ (τ : FieldType) (x : Content τ), fs.lookup name = some τ ∧
        ∀ owner, xs.heldAt owner name = x.held (.field owner name)
  | [], .nil => .inl ⟨rfl, fun _ => rfl⟩
  | (n, τ) :: fs, .cons content rest => by
    by_cases hn : n = name
    · refine .inr ⟨τ, content, ?_, fun owner => ?_⟩
      · rw [List.lookup_cons, beq_iff_eq.2 hn.symm]
      · rw [heldAt, if_pos hn]
    · have hlookup : ((n, τ) :: fs).lookup name = fs.lookup name := by
        rw [List.lookup_cons, beq_eq_false_iff_ne.2 (Ne.symm hn)]
      rw [hlookup]
      simp only [heldAt, if_neg hn]
      exact rest.exists_content name

/-- A field that is inline has the same contents for every owner, and any other field holds the
same nodes for every owner. -/
theorem Body.inline_or_fixed (name : String) {s : Shape} (n : Body s) :
    ((s.fields.lookup name).any FieldType.isInline = true ∧ ∃ (τ : FieldType) (x : Content τ),
      τ.isInline = true ∧ ∀ owner, n.heldAt owner name = x.held (.field owner name)) ∨
    ((s.fields.lookup name).any FieldType.isInline = false ∧
      ∀ owner owner', n.heldAt owner' name = n.heldAt owner name) := by
  cases n with
  | atom data => exact .inr ⟨rfl, fun _ _ => rfl⟩
  | form fields =>
    rcases fields.exists_content name with ⟨hnone, hnil⟩ | ⟨τ, x, hτ, hx⟩
    · refine .inr ⟨?_, fun owner owner' => (hnil owner').trans (hnil owner).symm⟩
      rw [Shape.fields, hnone]
      rfl
    · simp only [Shape.fields, hτ, Option.any_some]
      cases hinline : τ.isInline with
      | true => exact .inl ⟨rfl, τ, x, hinline, hx⟩
      | false =>
        refine .inr ⟨rfl, fun owner owner' => ?_⟩
        have hsame := x.held_of_not_inline (.field owner name) (.field owner' name) hinline
        exact (hx owner').trans (hsame.trans (hx owner).symm)
  | dialect kind shown parts =>
    refine .inr ⟨rfl, fun owner owner' => ?_⟩
    simp only [heldAt, Parts.heldAt_eq_nodes]

namespace Handle

/-- A node in an inline field is stored where the field is. -/
theorem place_of_mem_heldAt {h c : Handle} {name : String} (hname : h.kind.isInline name = true)
    (hc : c ∈ h.heldAt name) : c.place = .field h.place name := by
  rw [h.kind.isInline_eq] at hname
  rcases h.node.inline_or_fixed name with ⟨-, τ, x, hτ, hx⟩ | ⟨hfixed, -⟩
  · rw [heldAt, hx] at hc
    exact x.place_of_mem_held hτ hc
  · cases hname.symm.trans hfixed

/-- The nodes in a field of a copy: those in the field of the original, if the field is not inline,
and otherwise copies of them. -/
theorem heldAt_copyTo (h : Handle) (place : Place) (name : String) :
    (h.copyTo place).heldAt name = (h.heldAt name).map fun c =>
      if h.kind.isInline name then c.copyTo (.field place name) else c := by
  have hcopy : (h.copyTo place).heldAt name = h.node.heldAt place name := rfl
  rw [hcopy, heldAt, h.kind.isInline_eq]
  rcases h.node.inline_or_fixed name with ⟨hinline, τ, x, hτ, hx⟩ | ⟨hfixed, hheld⟩
  · rw [hinline, hx, hx, x.held_of_inline (.field h.place name) (.field place name) hτ]
    simp
  · rw [hfixed, hheld h.place place]
    simp

end Handle

/-! ### Children and the fields that hold them -/

namespace Walker

/-- The children of a node in walk order, each with the name of the field that holds it. -/
def branches (w : Walker) (h : Handle) : List (String × Handle) :=
  match w.row h with
  | .ok row => row.flatMap fun name => (h.heldAt name).map fun c => (name, c)
  | .error _ => []

/-- Whether a path goes through inline fields only. -/
def staysInside (w : Walker) : Handle → Path → Bool
  | _, [] => true
  | h, k :: path =>
    match (w.branches h)[k]? with
    | some (name, c) => h.kind.isInline name && w.staysInside c path
    | none => false

variable {w : Walker} {h n : Handle}

theorem children_eq_branches (w : Walker) (h : Handle) :
    w.children h = (w.row h).map fun _ => (w.branches h).map Prod.snd := by
  rw [children_eq, branches]
  cases w.row h with
  | error e => rfl
  | ok row => simp [Except.map, List.map_flatMap, Function.comp_def]

/-- The first step of a path goes through one of the fields of the root. -/
theorem descend_cons_iff_branch {k : Nat} {path : Path} :
    (w.descend (k :: path) h).2 = .ok n ↔
      ∃ name c, (w.branches h)[k]? = some (name, c) ∧ (w.descend path c).2 = .ok n := by
  rw [descend_cons_eq_ok_iff, children_eq_branches]
  cases hrow : w.row h with
  | error e => simp [Except.map, branches, hrow]
  | ok row =>
    constructor
    · rintro ⟨cs, c, hcs, hc, hn⟩
      obtain rfl := Except.ok.inj hcs
      simp only [List.getElem?_map, Option.map_eq_some_iff] at hc
      obtain ⟨⟨name, c⟩, hbranch, rfl⟩ := hc
      exact ⟨name, c, hbranch, hn⟩
    · rintro ⟨name, c, hbranch, hn⟩
      exact ⟨_, c, rfl, by simp [hbranch], hn⟩

/-- The place of a child in an inline field. -/
theorem place_of_mem_branches {name : String} {c : Handle} (hc : (name, c) ∈ w.branches h)
    (hname : h.kind.isInline name = true) : c.place = .field h.place name := by
  rw [branches] at hc
  cases hrow : w.row h with
  | error e => simp [hrow] at hc
  | ok row =>
    rw [hrow] at hc
    obtain ⟨name', -, hmem⟩ := List.mem_flatMap.1 hc
    obtain ⟨c', hc', heq⟩ := List.mem_map.1 hmem
    cases heq
    exact Handle.place_of_mem_heldAt hname hc'

/-- A silhouette does not show where a node is stored. -/
theorem silhouette_copyTo (w : Walker) (h : Handle) (place : Place) :
    w.silhouette (h.copyTo place) = w.silhouette h :=
  rfl

/-- The children of a copy are held by the same fields as those of the original. -/
theorem branches_copyTo (w : Walker) (h : Handle) (place : Place) :
    w.branches (h.copyTo place) = (w.branches h).map fun x =>
      (x.1, if h.kind.isInline x.1 then x.2.copyTo (.field place x.1) else x.2) := by
  have hrow : w.row (h.copyTo place) = w.row h := by
    have hkind : (h.copyTo place).dialectKind? = h.dialectKind? :=
      congrArg Prod.snd (badge_eq_of_silhouette_eq (w.silhouette_copyTo h place))
    rw [row, row, hkind]
    rfl
  rw [branches, branches, hrow]
  cases w.row h with
  | error e => rfl
  | ok row => simp [Handle.heldAt_copyTo, List.map_flatMap, Function.comp_def]

/-! ### Paths in a copy -/

/-- **Paths in a copy.** A path that goes through inline fields only leads to a copy of what it
leads to in the original, and any other path leads to the same stored node. -/
theorem descend_copyTo {path : Path} {place : Place} (hplace : place ≠ h.place)
    (hn : (w.descend path h).2 = .ok n) :
    ∃ n', (w.descend path (h.copyTo place)).2 = .ok n' ∧
      Counterpart (w.staysInside h path) n n' := by
  induction path generalizing h place with
  | nil =>
    cases hn
    exact ⟨_, rfl, .copied hplace⟩
  | cons k path ih =>
    obtain ⟨name, c, hk, hn⟩ := descend_cons_iff_branch.1 hn
    have hk' := congrArg (·[k]?) (w.branches_copyTo h place)
    simp only [List.getElem?_map, hk, Option.map_some] at hk'
    simp only [descend_cons_iff_branch, staysInside, hk, hk']
    cases hname : h.kind.isInline name with
    | true =>
      have hc := place_of_mem_branches (List.mem_of_getElem? hk) hname
      have hfield : Place.field place name ≠ c.place := by
        rw [hc]
        rintro ⟨⟩
        exact hplace rfl
      obtain ⟨n', hn', hcounterpart⟩ := ih hfield hn
      exact ⟨n', ⟨name, _, rfl, hn'⟩, hcounterpart⟩
    | false => exact ⟨n, ⟨name, c, rfl, hn⟩, .shared⟩

/-! ### Two full inspections -/

section Inspect

variable {σ : Type} {predicate : Handle → StateM σ Bool} {log : LogEvent → StateM σ Unit}

/-- A predicate that always holds answers alike, whatever its state is. -/
theorem lockstep_of_forall_true (htrue : ∀ n t, ((predicate n).run t).1 = true) :
    (Visitor.inspector predicate log).Lockstep fun _ _ => True where
  answer_eq := by
    intro s s' _ i n n' _
    have hanswer : ∀ n t, ((Visitor.inspector predicate log).call i (.enter n) t).answer =
        if ((predicate n).run t).1 then some () else none := fun _ _ => rfl
    rw [hanswer, hanswer, htrue, htrue]
  noticing := fun _ _ _ _ => trivial

/-- The full inspections of a node and of its copy end alike. -/
theorem result_inspect_copyTo (htrue : ∀ n t, ((predicate n).run t).1 = true) (w : Walker)
    (h : Handle) (place : Place) (s s' : σ) :
    ((w.inspect predicate (h.copyTo place) log).run.run s').1 =
      ((w.inspect predicate h log).run.run s).1 :=
  (walk_eq_of_lockstep (lockstep_of_forall_true htrue) (w.silhouette_copyTo h place) () s s'
    trivial).1

/-- The same paths lead to nodes from a node and from its copy. -/
theorem exists_descend_copyTo_iff {place : Place} (hplace : place ≠ h.place) {path : Path} :
    (∃ n, (w.descend path (h.copyTo place)).2 = .ok n) ↔ ∃ n, (w.descend path h).2 = .ok n := by
  constructor
  · rintro ⟨n, hn⟩
    -- the original is in turn a copy of its copy
    have hback : h.place ≠ (h.copyTo place).place := hplace.symm
    obtain ⟨n', hn', -⟩ := descend_copyTo hback hn
    exact ⟨n', hn'⟩
  · rintro ⟨n, hn⟩
    obtain ⟨n', hn', -⟩ := descend_copyTo hplace hn
    exact ⟨n', hn'⟩

variable {place : Place} {s s' : σ}

/-- Full inspections of a node and of its copy ask at the same paths. -/
theorem map_fst_asked_copyTo (hplace : place ≠ h.place)
    (htrue : ∀ n t, ((predicate n).run t).1 = true)
    (hok : (w.run (.inspector predicate log) () h s).result = .ok ())
    (hok' : (w.run (.inspector predicate log) () (h.copyTo place) s').result = .ok ()) :
    (w.asked predicate log (h.copyTo place) s').map Prod.fst =
      (w.asked predicate log h s).map Prod.fst := by
  -- both lists are increasing, and the same paths lead to nodes
  refine (increasing_asked w predicate log (h.copyTo place) s').eq_of_mem_iff
    (increasing_asked w predicate log h s) fun {p} => ?_
  have hleads : (∃ n, (w.descend p (h.copyTo place)).2 = .ok n) ↔
      ∃ n, (w.descend p h).2 = .ok n := exists_descend_copyTo_iff hplace
  simp only [← exists_asked_iff_of_forall_true hok htrue,
    ← exists_asked_iff_of_forall_true hok' htrue] at hleads
  simpa using hleads

/-- What is asked about at a path of the copy is the counterpart of what is asked about at the same
path of the original. -/
theorem counterpart_asked (hplace : place ≠ h.place)
    (htrue : ∀ n t, ((predicate n).run t).1 = true)
    (hok : (w.run (.inspector predicate log) () h s).result = .ok ())
    (hok' : (w.run (.inspector predicate log) () (h.copyTo place) s').result = .ok ())
    {p : Path} {q q' : Question σ} (hq : (p, q) ∈ w.asked predicate log h s)
    (hq' : (p, q') ∈ w.asked predicate log (h.copyTo place) s') :
    (w.descend p h).2 = .ok q.node ∧ Counterpart (w.staysInside h p) q.node q'.node := by
  have hn : (w.descend p h).2 = .ok q.node :=
    (exists_asked_iff_of_forall_true hok htrue).1 ⟨q, hq, rfl⟩
  have hn' : (w.descend p (h.copyTo place)).2 = .ok q'.node :=
    (exists_asked_iff_of_forall_true hok' htrue).1 ⟨q', hq', rfl⟩
  obtain ⟨m, hm, hcounterpart⟩ := descend_copyTo hplace hn
  obtain rfl : m = q'.node := Except.ok.inj (hm.symm.trans hn')
  exact ⟨hn, hcounterpart⟩

/-- **Copies share what is not inline.** Let a node and a copy of it be inspected in full, and let
the inspection of the node succeed. Then so does that of the copy. Both ask about the same number of
occurrences, one by one at the same paths and of the same kinds, and about the same stored node
exactly where the path does not go through inline fields only; the path of the root goes through no
field at all. -/
theorem inspect_copyTo (w : Walker) (h : Handle) (place : Place) (hplace : place ≠ h.place)
    (predicate : Handle → StateM σ Bool) (log : LogEvent → StateM σ Unit)
    (htrue : ∀ n t, ((predicate n).run t).1 = true) (s s' : σ)
    (hok : ((w.inspect predicate h log).run.run s).1 = .ok ()) :
    let asked := w.asked predicate log h s
    let asked' := w.asked predicate log (h.copyTo place) s'
    ((w.inspect predicate (h.copyTo place) log).run.run s').1 = .ok () ∧
    asked.map Prod.snd = w.questions predicate log h s ∧
    asked'.map Prod.snd = w.questions predicate log (h.copyTo place) s' ∧
    asked'.map Prod.fst = asked.map Prod.fst ∧
    ∀ (k : Nat) (p p' : Path) (q q' : Question σ), asked[k]? = some (p, q) →
      asked'[k]? = some (p', q') →
      (w.descend p h).2 = .ok q.node ∧ q'.node.kind = q.node.kind ∧
      q.node.same q'.node = !w.staysInside h p ∧
      (w.staysInside h p = false → q'.node = q.node) := by
  intro asked asked'
  have hok' := (result_inspect_copyTo htrue w h place s s').trans hok
  have hrun : (w.run (.inspector predicate log) () h s).result = .ok () := by
    rw [inspect, run_walk] at hok
    exact hok
  have hrun' : (w.run (.inspector predicate log) () (h.copyTo place) s').result = .ok () := by
    rw [inspect, run_walk] at hok'
    exact hok'
  have hpaths : asked'.map Prod.fst = asked.map Prod.fst :=
    map_fst_asked_copyTo hplace htrue hrun hrun'
  refine ⟨hok', w.map_snd_asked predicate log h s, w.map_snd_asked predicate log _ s', hpaths, ?_⟩
  intro k p p' q q' hq hq'
  obtain rfl : p' = p := by
    have hk := congrArg (·[k]?) hpaths
    simpa [hq, hq'] using hk
  obtain ⟨hn, hcounterpart⟩ := counterpart_asked hplace htrue hrun hrun'
    (List.mem_of_getElem? hq) (List.mem_of_getElem? hq')
  refine ⟨hn, hcounterpart.kind_eq, hcounterpart.same_eq, fun hinside => ?_⟩
  rw [hinside] at hcounterpart
  exact hcounterpart.eq_of_shared

end Inspect

end Walker

/-! ### A copied call -/

/-- The call of a function with one argument and a window that has a frame: the name of the function
and the window are part of the call, and the frame is part of the window. -/
def Handle.ranked : Handle where
  place := .cell 0
  kind := .function
  node :=
    let name : Node .objectName :=
      .form (.cons (.list 0 (.cons (.inline (.atom ⟨"rank", none, ⟨0, 4⟩⟩)) .nil)) .nil)
    let frame : Node .windowFrame :=
      .form (.cons (.inline (.atom .rows)) (.cons (.inline (.atom .currentRow))
        (.cons .absent .nil)))
    let window : Node .windowSpec :=
      .form (.cons (.list 2 .nil) (.cons (.list 2 .nil) (.cons (.present (.inline frame)) .nil)))
    .form (.cons (.inline name) (.cons (.list 1 (.cons (.operand 1 ⟨"a", none, ⟨5, 6⟩⟩) .nil))
      (.cons (.present (.inline window)) (.cons (.flag false) .nil))))

namespace Walker

/-- The copy of the call has a name, a window and a frame of its own, but shares the list that its
name consists of, and its argument. -/
theorem copied_ranked :
    let asked := ({} : Walker).asked holdsAlways (fun _ => pure ()) .ranked 0
    let asked' := ({} : Walker).asked holdsAlways (fun _ => pure ())
      (Handle.ranked.copyTo (.cell 9)) 5
    Place.cell 9 ≠ Handle.ranked.place ∧ (∀ n t, ((holdsAlways n).run t).1 = true) ∧
    ((({} : Walker).inspect holdsAlways .ranked).run.run 0).1 = .ok () ∧
    ((({} : Walker).inspect holdsAlways (Handle.ranked.copyTo (.cell 9))).run.run 5).1 = .ok () ∧
    asked'.map Prod.fst = asked.map Prod.fst ∧
    (∀ (k : Nat) (p p' : Path) (q q' : Question Nat), asked[k]? = some (p, q) →
      asked'[k]? = some (p', q') → q.node.same q'.node = !({} : Walker).staysInside .ranked p) ∧
    asked.map (fun x => (x.1, ({} : Walker).staysInside .ranked x.1)) =
      [([], true), ([0], true), ([0, 0], false), ([1], false), ([1, 0], false), ([2], true),
        ([2, 0], true), ([2, 0, 0], true), ([2, 0, 1], true)] := by
  have hplace : Place.cell 9 ≠ Handle.ranked.place := by decide
  have htrue : ∀ n t, ((holdsAlways n).run t).1 = true := fun _ _ => rfl
  have hok : ((({} : Walker).inspect holdsAlways .ranked).run.run 0).1 = .ok () := by cbv
  have hinside : (({} : Walker).asked holdsAlways (fun _ => pure ()) .ranked 0).map
      (fun x => (x.1, ({} : Walker).staysInside .ranked x.1)) =
      [([], true), ([0], true), ([0, 0], false), ([1], false), ([1, 0], false), ([2], true),
        ([2, 0], true), ([2, 0, 0], true), ([2, 0, 1], true)] := by cbv
  obtain ⟨hok', -, -, hpaths, hshared⟩ :=
    inspect_copyTo {} .ranked (.cell 9) hplace holdsAlways (fun _ => pure ()) htrue 0 5 hok
  exact ⟨hplace, htrue, hok, hok', hpaths,
    fun k p p' q q' hq hq' => (hshared k p p' q q' hq hq').2.2.1, hinside⟩

end Walker

end SqlTree
