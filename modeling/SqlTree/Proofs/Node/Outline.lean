import SqlTree.Proofs.Node.Template
import SqlTree.Proofs.Walk.Extension
import SqlTree.Proofs.Walk.Preorder

/-!
# Dumps follow walks

The dump of a node shows all its fields in the order of their declaration, with the dumps of the
nodes in them in place. The walk goes by a table of its own. Both agree: what is shown of the
children of a node are their dumps, in the order of the walk, and everything around them can be
told without looking at the children. A child may be a dialect node, and then its dump is whatever
it brings.

* `Handle.declared` lists the nodes in all fields of a node, in the order of declaration, and
  `Walker.children_eq_declared` says that these are its children.
* `Handle.outline` is what a node is without its children: its kind, its data, the lengths of its
  lists, which of its optional fields are present, and the variants in which its children are
  shown. `Outline.template` is the text around the children.
* `Tree.skeleton` is a whole tree without its names, and `Skeleton.template` the text around them.

Main statement: `Walker.text_eq_interleave`.
-/

set_option autoImplicit false

namespace SqlTree

/-! ### The nodes in all fields -/

/-- The nodes in the fields of a form, field by field. -/
def Fields.held (owner : Place) : {fs : List FieldDecl} → Fields fs → List Handle
  | _, .nil => []
  | (n, _) :: _, .cons content rest => content.held (.field owner n) ++ rest.held owner

/-- The nodes in the declared fields of a node. A dialect node declares none. -/
def Body.held (owner : Place) : {s : Shape} → Body s → List Handle
  | _, .atom _ => []
  | _, .form fields => fields.held owner
  | _, .dialect _ _ _ => []

/-- The nodes in all declared fields of a node, in the order of declaration. -/
def Handle.declared (h : Handle) : List Handle :=
  Body.held h.place h.node

mutual

/-- Fields for data hold no nodes. -/
theorem Content.held_eq_nil (place : Place) : {τ : FieldType} → (x : Content τ) →
    τ.holdsNodes = false → x.held place = []
  | _, .flag _, _ => rfl
  | _, .choice _, _ => rfl
  | _, .lines _, _ => rfl
  | _, .inline _, hτ => by cases hτ
  | _, .ref _ _ _ _, hτ => by cases hτ
  | _, .arm _ _, hτ => by cases hτ
  | _, .absent, _ => rfl
  | _, .present content, hτ => content.held_eq_nil place hτ
  | _, .list _ items, hτ => items.held_eq_nil _ 0 hτ

theorem Items.held_eq_nil (block index : Nat) : {τ : FieldType} → (xs : Items τ) →
    τ.holdsNodes = false → xs.held block index = []
  | _, .nil, _ => rfl
  | _, .cons head tail, hτ => by
    rw [Items.held, head.held_eq_nil _ hτ, tail.held_eq_nil block (index + 1) hτ]
    rfl

end

/-- If no name is declared twice, then looking up the fields that can hold nodes by their names
finds the nodes in all fields. -/
theorem Fields.flatMap_heldAt (owner : Place) : {fs : List FieldDecl} → (xs : Fields fs) →
    (fs.map Prod.fst).Nodup →
    ((fs.filter fun f => f.2.holdsNodes).map Prod.fst).flatMap (fun n => xs.heldAt owner n) =
      xs.held owner
  | [], .nil, _ => rfl
  | (n, τ) :: fs, .cons content rest, hnodup => by
    obtain ⟨hn, hnodup⟩ := List.nodup_cons.1 hnodup
    have hrest : ((fs.filter fun f => f.2.holdsNodes).map Prod.fst).flatMap
        (fun name => (cons (n := n) content rest).heldAt owner name) = rest.held owner := by
      rw [← rest.flatMap_heldAt owner hnodup]
      refine List.flatMap_congr fun name hname => ?_
      have hne : n ≠ name := by
        rintro rfl
        exact hn ((List.filter_sublist.map Prod.fst).subset hname)
      rw [heldAt, if_neg hne]
    cases hτ : τ.holdsNodes with
    | false =>
      rw [List.filter_cons_of_neg (by simp [hτ]), hrest, held, content.held_eq_nil _ hτ]
      rfl
    | true =>
      rw [List.filter_cons_of_pos (by simpa using hτ), List.map_cons, List.flatMap_cons, hrest,
        held, heldAt, if_pos rfl]

theorem Body.flatMap_heldAt (owner : Place) {s : Shape} (n : Body s)
    (hnodup : (s.fields.map Prod.fst).Nodup) :
    ((s.fields.filter fun f => f.2.holdsNodes).map Prod.fst).flatMap
      (fun name => n.heldAt owner name) = n.held owner := by
  cases n with
  | atom data => rfl
  | form fields => exact fields.flatMap_heldAt owner hnodup
  | dialect kind shown parts => rfl

/-- **The table takes all fields that can hold nodes**, in the order of their declaration. -/
theorem Kind.childOrder_eq (k : Kind) :
    k.childOrder = (k.shape.fields.filter fun f => f.2.holdsNodes).map Prod.fst := by
  have hall : ∀ k ∈ all,
      k.childOrder = (k.shape.fields.filter fun f => f.2.holdsNodes).map Prod.fst := by
    decide +kernel
  exact hall k (mem_all k)

/-- The children of a built-in node are the nodes in its fields. -/
theorem Walker.children_eq_declared (w : Walker) {h : Handle} (hk : h.kind ≠ .dialect) :
    w.children h = .ok h.declared := by
  have hall := Body.flatMap_heldAt h.place h.node h.kind.nodup_fields
  rw [children_eq, w.row_of_ne_dialect hk, h.kind.childOrder_eq]
  exact congrArg Except.ok hall

/-! ### Outlines -/

/-- What a field is without the nodes in it. -/
inductive FieldOutline where
  | flag (value : Bool)
  | choice (value : Option Bool)
  | lines (values : List (Option String))
  /-- A node, and the variant that it is shown in if its category has a choice. -/
  | node (variant : Option String)
  | arm (condition result : FieldOutline)
  | absent
  | present (content : FieldOutline)
  | list (items : List FieldOutline)

/-- What a node is without its children. -/
inductive Outline where
  | atom {t : AtomType} (data : t.Carrier)
  | form (kind : Kind) (fields : List FieldOutline)
  /-- A dialect node declares no fields, and its dump is its own. -/
  | dialect (shown : Dump)

mutual

/-- The outline of a field. -/
def Content.outline : {τ : FieldType} → Content τ → FieldOutline
  | _, .flag value => .flag value
  | _, .choice value => .choice value
  | _, .lines values => .lines values
  | .inline _, .inline _ => .node none
  | .ref t, .ref _ k _ _ => .node (t.variantName? k)
  | _, .arm condition result => .arm condition.outline result.outline
  | _, .absent => .absent
  | _, .present content => .present content.outline
  | _, .list _ items => .list items.outlines

/-- The outlines of the items of a list. -/
def Items.outlines : {τ : FieldType} → Items τ → List FieldOutline
  | _, .nil => []
  | _, .cons head tail => head.outline :: tail.outlines

end

/-- The outlines of the fields of a form. -/
def Fields.outlines : {fs : List FieldDecl} → Fields fs → List FieldOutline
  | _, .nil => []
  | _, .cons content rest => content.outline :: rest.outlines

/-- The outline of a node of the given kind. -/
def Body.outline (k : Kind) : {s : Shape} → Body s → Outline
  | _, .atom data => .atom data
  | _, .form fields => .form k fields.outlines
  | _, .dialect _ shown _ => .dialect shown

/-- The outline of a node. -/
def Handle.outline (h : Handle) : Outline :=
  Body.outline h.kind h.node

/-! ### The text around the children -/

mutual

/-- The text around the nodes in a field. -/
def FieldOutline.template : FieldOutline → Template
  | flag value => [.words (Content.flag value).dump.compact]
  | choice value => [.words (Content.choice value).dump.compact]
  | lines values => [.words (Content.lines values).dump.compact]
  | node none => [.gap]
  | node (some variant) => Template.around (.variant variant) [("", [.gap])]
  | arm condition result =>
    Template.around (.record "CaseWhen")
      [("condition" ++ ": ", condition.template), ("result" ++ ": ", result.template)]
  | absent => [.words "None"]
  | present content => Template.around (.variant "Some") [("", content.template)]
  | list items => Template.around .list (templates items)

/-- The texts around the nodes in the items of a list. -/
def FieldOutline.templates : List FieldOutline → List (String × Template)
  | [] => []
  | item :: items => ("", item.template) :: templates items

end

namespace Outline

/-- The text around the children of a node. The names of the fields belong to the kind. -/
def template : Outline → Template
  | @atom t data => [.words (t.dump data).compact]
  | form k fields =>
    Template.around (.record k.recordName)
      (k.shape.fields.zipWith (fun f field => (f.1 ++ ": ", field.template)) fields)
  | dialect shown => [.words shown.compact]

/-- The texts before, between and after the children of a node. -/
def separators (o : Outline) : List String :=
  o.template.separators

end Outline

/-- The dump of a node on one line, without the variant of its kind. -/
def Handle.text (h : Handle) : String :=
  h.node.dump.compact

open Template in
mutual

theorem Content.shows (place : Place) : {τ : FieldType} → (x : Content τ) →
    Shows x.outline.template ((x.held place).map Handle.text) x.dump.compact
  | _, .flag _ => .words _
  | _, .choice _ => .words _
  | _, .lines _ => .words _
  | .inline _, .inline _ => .gap _
  | .ref t, .ref cell k _ node => by
    rw [Content.outline, Content.dump]
    cases t.variantName? k with
    | none => exact .gap _
    | some variant => exact (ShowsAll.single (.gap _)).group (.variant variant)
  | _, .arm condition result => by
    rw [Content.held, List.map_append]
    exact (ShowsAll.cons (condition.shows place) (.single (result.shows place))).group
      (.record "CaseWhen")
  | _, .absent => .words _
  | _, .present content => (ShowsAll.single (content.shows place)).group (.variant "Some")
  | _, .list block items => (items.showsAll block 0).group .list

theorem Items.showsAll (block index : Nat) : {τ : FieldType} → (xs : Items τ) →
    ShowsAll (FieldOutline.templates xs.outlines) ((xs.held block index).map Handle.text)
      (xs.dump.map fun d => ("", d))
  | _, .nil => .nil
  | _, .cons head tail => by
    rw [Items.held, List.map_append]
    exact .cons (head.shows _) (tail.showsAll block (index + 1))

end

open Template in
theorem Fields.showsAll (owner : Place) : {fs : List FieldDecl} → (xs : Fields fs) →
    ShowsAll (fs.zipWith (fun f field => (f.1 ++ ": ", field.template)) xs.outlines)
      ((xs.held owner).map Handle.text) (xs.dump.map fun f => (f.1 ++ ": ", f.2))
  | _, .nil => .nil
  | (n, _) :: _, .cons content rest => by
    rw [Fields.held, List.map_append]
    exact .cons (content.shows _) (rest.showsAll owner)

theorem Body.shows (owner : Place) {k : Kind} {s : Shape} (n : Body s) (hs : k.shape = s) :
    (n.outline k).template.Shows ((n.held owner).map Handle.text)
      (n.dump k.recordName).compact := by
  cases n with
  | atom data => exact .words _
  | form fields =>
    have hall := (fields.showsAll owner).group (.record k.recordName)
    rw [outline, Outline.template, hs]
    exact hall
  | dialect kind shown parts => exact .words _

/-- **The outline of a node shows its dump**, once the dumps of the nodes in its fields are filled
in. -/
theorem Handle.shows (h : Handle) :
    h.outline.template.Shows (h.declared.map Handle.text) h.text :=
  Body.shows h.place h.node rfl

/-! ### Whole trees -/

/-- A tree without its names. -/
inductive Skeleton where
  | name
  | node (own : Outline) (below : List Skeleton)

namespace Skeleton

mutual

/-- The text around the names of a tree. -/
def template : Skeleton → Template
  | name => [.gap]
  | node own below => own.template.plug (templates below)

/-- The texts around the names of siblings. -/
def templates : List Skeleton → List Template
  | [] => []
  | t :: ts => t.template :: templates ts

end

theorem templates_eq_map (ts : List Skeleton) : templates ts = ts.map template := by
  induction ts with
  | nil => rfl
  | cons t ts ih => rw [templates, ih, List.map_cons]

/-- The texts before, between and after the names of a tree. -/
def separators (t : Skeleton) : List String :=
  t.template.separators

end Skeleton

mutual

/-- The skeleton of an unfolding. -/
def Tree.skeleton : Tree → Skeleton
  | .node h below => if h.ident?.isSome then .name else .node h.outline below.skeletons
  | .stuck h _ => .node h.outline []

/-- The skeletons of the unfoldings of siblings. -/
def Forest.skeletons : Forest → List Skeleton
  | .nil => []
  | .cons t f => t.skeleton :: f.skeletons

end

theorem Forest.skeletons_ofList (ts : List Tree) :
    (ofList ts).skeletons = ts.map Tree.skeleton := by
  induction ts with
  | nil => rfl
  | cons t ts ih => rw [ofList, skeletons, ih, List.map_cons]

/-- The names in an unfolding, in order. -/
def Tree.names (t : Tree) : List Ident :=
  t.handles.filterMap Handle.ident?

theorem Handle.ident?_eq_some_iff {h : Handle} {i : Ident} :
    h.ident? = some i ↔ ∃ place, h = ⟨place, .ident, .atom i⟩ := by
  constructor
  · intro hi
    unfold ident? at hi
    split at hi
    · cases hi
      exact ⟨_, rfl⟩
    · cases hi
  · rintro ⟨place, rfl⟩
    rfl

namespace Walker

/-- What is listed of a node that is no name: the names below its children, one after the other. -/
theorem names_unfold {w : Walker} {h : Handle} (hi : h.ident? = none) {cs : List Handle}
    (hcs : w.children h = .ok cs) :
    (w.unfold h).names = cs.flatMap fun c => (w.unfold c).names := by
  rw [unfold_eq_node hcs, Tree.names, Tree.handles, List.filterMap_cons_none hi,
    Forest.handles_ofList, List.flatMap_map, List.filterMap_flatMap]
  rfl

theorem template_unfold {w : Walker} {h : Handle} (hi : h.ident? = none) {cs : List Handle}
    (hcs : w.children h = .ok cs) :
    (w.unfold h).skeleton.template =
      h.outline.template.plug (cs.map fun c => (w.unfold c).skeleton.template) := by
  rw [unfold_eq_node hcs, Tree.skeleton, hi, Forest.skeletons_ofList]
  simp [Skeleton.template, Skeleton.templates_eq_map, Function.comp_def]

/-- **The skeleton of a tree shows its dump**, once the dumps of the names are filled in. -/
theorem shows_unfold (w : Walker) (h : Handle) (hfree : h.DialectFree) :
    (w.unfold h).skeleton.template.Shows ((w.unfold h).names.map fun i => i.dump.compact)
      h.text := by
  have hk : h.kind ≠ .dialect := Handle.dialectKind?_eq_none_iff.1 (hfree [] h rfl)
  have hcs := w.children_eq_declared hk
  cases hi : h.ident? with
  | some i =>
    obtain ⟨place, rfl⟩ := Handle.ident?_eq_some_iff.1 hi
    rw [unfold_eq_node hcs]
    exact .gap _
  | none =>
    rw [template_unfold hi hcs, names_unfold hi hcs, List.map_flatMap]
    refine h.shows.plug fun c hc => ?_
    exact w.shows_unfold c (hfree.child (Walker.children_eq_declared {} hk) hc)
termination_by h.size
decreasing_by exact size_lt_of_mem_children hcs hc

/-- The names of a tree without dialect nodes are those of its unfolding. -/
theorem idents_of_dialectFree (w : Walker) {h : Handle} (hfree : h.DialectFree) :
    w.idents h = (.ok (), (w.unfold h).names) := by
  have hwalk := walk_ok_of_dialectFree hfree .surveyor () #[]
  have hok : (w.survey h).1 = .ok () := by
    rw [← ((w.extends_of_dialectFree hfree).run_eq .surveyor () #[] hwalk).1] at hwalk
    exact hwalk
  have hidents : w.idents h = ((w.survey h).1, (w.survey h).2.filterMap Handle.ident?) := rfl
  rw [hidents, hok, survey_eq_handles hok, Tree.names]

end Walker

/-- The text around the characters of a name. -/
def Ident.template (i : Ident) : Template :=
  Template.around (.record "Ident") [
    ("value" ++ ": ", [.gap]),
    ("quote_style" ++ ": ",
      [.words (Dump.option (i.quote.map fun q => .word (Text.quotedChar q))).compact]),
    ("span" ++ ": ", [.words i.span.dump.compact])]

theorem Ident.shows (i : Ident) : i.template.Shows [Text.quoted i.value] i.dump.compact := by
  have hvalue : Template.Shows [.gap] [Text.quoted i.value]
      (Dump.word (Text.quoted i.value)).compact := .gap _
  exact (Template.ShowsAll.cons hvalue (.cons (.words _) (.single (.words _)))).group
    (.record "Ident")

namespace Walker

/-- **Dumps follow walks.** The children of a built-in node are the nodes in all its fields, in
the order of declaration, and its dump is interleaved from their dumps and from separators that
belong to its outline. In the dump of a tree without dialect nodes the names stand in the order in
which a full inspection enters them, and what is around them belongs to the skeleton of the
tree. -/
theorem text_eq_interleave (w : Walker) :
    (∀ h : Handle, h.kind ≠ .dialect →
      w.children h = .ok h.declared ∧
      h.outline.separators.length = h.declared.length + 1 ∧
      h.text = interleave h.outline.separators (h.declared.map Handle.text)) ∧
    (∀ h : Handle, h.DialectFree → ∃ names, w.idents h = (.ok (), names) ∧
      (w.unfold h).skeleton.separators.length = names.length + 1 ∧
      h.text = interleave (w.unfold h).skeleton.separators
        (names.map fun i => i.dump.compact) ∧
      ∃ around, around.length = names.length + 1 ∧
        h.text = interleave around (names.map fun i => Text.quoted i.value)) := by
  refine ⟨fun h hk => ⟨w.children_eq_declared hk, ?_⟩, fun h hfree => ?_⟩
  · obtain ⟨hlength, htext⟩ := h.shows.eq_interleave
    exact ⟨by rwa [List.length_map] at hlength, htext⟩
  · have hshows := w.shows_unfold h hfree
    obtain ⟨hlength, htext⟩ := hshows.eq_interleave
    -- the characters of a name stand in its record, and the records stand in the dump
    have hvalues := hshows.plug fun i _ => i.shows
    rw [← List.map_eq_flatMap] at hvalues
    obtain ⟨hlength', htext'⟩ := hvalues.eq_interleave
    rw [List.length_map] at hlength hlength'
    exact ⟨_, w.idents_of_dialectFree hfree, hlength, htext, _, hlength', htext'⟩

/-- The dump of the comparison, around its operands and around its names, and the dump of the
clause around its hint, which shows itself. -/
theorem text_selfCompared :
    Handle.selfCompared.kind ≠ .dialect ∧
    (hinting.children .selfCompared = .ok Handle.selfCompared.declared ∧
      Handle.selfCompared.outline.separators =
        ["BinaryExpr \x7b left: Identifier(", "), op: ", ", right: Identifier(", ") \x7d"] ∧
      Handle.selfCompared.text = interleave Handle.selfCompared.outline.separators
        (Handle.selfCompared.declared.map Handle.text)) ∧
    Handle.selfCompared.DialectFree ∧
    (∃ names, hinting.idents .selfCompared = (.ok (), names) ∧
      Handle.selfCompared.text = interleave (hinting.unfold .selfCompared).skeleton.separators
        (names.map fun i => i.dump.compact)) ∧
    Handle.hinted.kind ≠ .dialect ∧
    Handle.hinted.outline.separators = ["Where \x7b condition: Dialect(", ") \x7d"] ∧
    Handle.hinted.declared.map Handle.text = ["Hint \x7b .. \x7d"] ∧
    Handle.hinted.text = interleave Handle.hinted.outline.separators
      (Handle.hinted.declared.map Handle.text) := by
  have hkind : Handle.selfCompared.kind ≠ .dialect := by decide
  obtain ⟨hchildren, -, htext⟩ := (text_eq_interleave hinting).1 .selfCompared hkind
  obtain ⟨names, hnames, -, htext', -⟩ :=
    (text_eq_interleave hinting).2 .selfCompared dialectFree_selfCompared
  have hkind' : Handle.hinted.kind ≠ .dialect := by decide
  obtain ⟨-, -, htext''⟩ := (text_eq_interleave hinting).1 .hinted hkind'
  exact ⟨hkind, ⟨hchildren, by decide, htext⟩, dialectFree_selfCompared,
    ⟨names, hnames, htext'⟩, hkind', by decide, by decide, htext''⟩

end Walker

end SqlTree
