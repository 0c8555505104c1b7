import SqlTree.Proofs.Node.Outline

/-!
# Silhouettes

The silhouette of a node is what a walk can see of the tree below it: the kinds of the nodes, which
of their optional fields are present, how long their lists are, the names of dialect kinds, and of
a dialect node the nodes in those fields that its row names. Data is left out, whatever it is, and
so are the places of nodes and the fields of a dialect node that are in no row.

* `Walker.silhouette` is the silhouette of a node.
* `Handle.badge` is what a node shows of itself only: its kind, with the name of a dialect kind.
* `Walker.silhouette_spec`: what a node is known by and the silhouettes of its children, or the
  failure to list them, can be read off its silhouette.
-/

set_option autoImplicit false

namespace SqlTree

mutual

/-- What a walk can see of a node. -/
inductive Silhouette where
  | atom (kind : Kind)
  | form (kind : Kind) (fields : List FieldSilhouette)
  /-- A dialect node. There are no fields if its kind has no row, and otherwise one for each name
  in the row. -/
  | dialect (kind : String) (fields : Option (List (List FieldSilhouette)))

/-- What a walk can see of a field. -/
inductive FieldSilhouette where
  /-- Some data. -/
  | data
  | node (own : Silhouette)
  | arm (condition result : FieldSilhouette)
  | absent
  | present (content : FieldSilhouette)
  | list (items : List FieldSilhouette)

end

/-! ### The silhouette of a node -/

mutual

/-- The silhouette of a node of the given kind. -/
def Body.silhouette (w : Walker) (k : Kind) : {s : Shape} → Body s → Silhouette
  | _, .atom _ => .atom k
  | _, .form fields => .form k (fields.silhouettes w)
  | _, .dialect kind _ parts =>
    .dialect kind ((w.registry.childOrder kind).map fun order =>
      order.map fun name => parts.silhouettesAt w name)

/-- The silhouettes of the fields of a form. -/
def Fields.silhouettes (w : Walker) : {fs : List FieldDecl} → Fields fs → List FieldSilhouette
  | _, .nil => []
  | _, .cons content rest => content.silhouette w :: rest.silhouettes w

/-- The silhouette of a field. -/
def Content.silhouette (w : Walker) : {τ : FieldType} → Content τ → FieldSilhouette
  | _, .flag _ => .data
  | _, .choice _ => .data
  | _, .lines _ => .data
  | .inline k, .inline node => .node (node.silhouette w k)
  | _, .ref _ k _ node => .node (node.silhouette w k)
  | _, .arm condition result => .arm (condition.silhouette w) (result.silhouette w)
  | _, .absent => .absent
  | _, .present content => .present (content.silhouette w)
  | _, .list _ items => .list (items.silhouettes w)

/-- The silhouettes of the items of a list. -/
def Items.silhouettes (w : Walker) : {τ : FieldType} → Items τ → List FieldSilhouette
  | _, .nil => []
  | _, .cons head tail => head.silhouette w :: tail.silhouettes w

/-- The silhouettes of what the first field with a given name holds. -/
def Parts.silhouettesAt (w : Walker) : Parts → String → List FieldSilhouette
  | .nil, _ => []
  | .cons n part rest, name =>
    if n = name then part.silhouettes w else rest.silhouettesAt w name

/-- The silhouettes of what a field of a dialect node holds. -/
def Part.silhouettes (w : Walker) : Part → List FieldSilhouette
  | .absent => []
  | .one node => [node.silhouette w]
  | .many nodes => nodes.silhouettes w

end

/-- The silhouette of a node. -/
def Walker.silhouette (w : Walker) (h : Handle) : Silhouette :=
  Body.silhouette w h.kind h.node

/-! ### Reading a silhouette -/

mutual

/-- The silhouettes of the nodes in a field. -/
def FieldSilhouette.nodes : FieldSilhouette → List Silhouette
  | data => []
  | node own => [own]
  | arm condition result => condition.nodes ++ result.nodes
  | absent => []
  | present content => content.nodes
  | list items => nodesIn items

/-- The silhouettes of the nodes in some fields, field by field. -/
def FieldSilhouette.nodesIn : List FieldSilhouette → List Silhouette
  | [] => []
  | x :: xs => x.nodes ++ nodesIn xs

end

/-- The silhouettes of the children of a node. -/
def Silhouette.children : Silhouette → Except WalkError (List Silhouette)
  | atom _ => .ok []
  | form _ fields => .ok (FieldSilhouette.nodesIn fields)
  | dialect kind none => .error (.unregistered kind)
  | dialect _ (some fields) => .ok (fields.flatMap FieldSilhouette.nodesIn)

/-- The kind of a node, with the name of a dialect kind. -/
def Silhouette.badge : Silhouette → Kind × Option String
  | atom k => (k, none)
  | form k _ => (k, none)
  | dialect kind _ => (.dialect, some kind)

/-- The kind of a node, with the name of a dialect kind. -/
def Handle.badge (h : Handle) : Kind × Option String :=
  (h.kind, h.dialectKind?)

section Held

variable (w : Walker)

mutual

theorem Content.map_silhouette_held (place : Place) : {τ : FieldType} → (x : Content τ) →
    (x.held place).map w.silhouette = (x.silhouette w).nodes
  | _, .flag _ => rfl
  | _, .choice _ => rfl
  | _, .lines _ => rfl
  | .inline _, .inline _ => rfl
  | _, .ref _ _ _ _ => rfl
  | _, .arm condition result => by
    rw [Content.held, List.map_append, condition.map_silhouette_held, result.map_silhouette_held,
      Content.silhouette, FieldSilhouette.nodes]
  | _, .absent => rfl
  | _, .present content => content.map_silhouette_held place
  | _, .list _ items => items.map_silhouette_held _ 0

theorem Items.map_silhouette_held (block index : Nat) : {τ : FieldType} → (xs : Items τ) →
    (xs.held block index).map w.silhouette = FieldSilhouette.nodesIn (xs.silhouettes w)
  | _, .nil => rfl
  | _, .cons head tail => by
    rw [Items.held, List.map_append, head.map_silhouette_held, tail.map_silhouette_held,
      Items.silhouettes, FieldSilhouette.nodesIn]

end

theorem Fields.map_silhouette_held (owner : Place) : {fs : List FieldDecl} → (xs : Fields fs) →
    (xs.held owner).map w.silhouette = FieldSilhouette.nodesIn (xs.silhouettes w)
  | _, .nil => rfl
  | (_, _) :: _, .cons content rest => by
    rw [Fields.held, List.map_append, content.map_silhouette_held, rest.map_silhouette_held,
      Fields.silhouettes, FieldSilhouette.nodesIn]

theorem Part.map_silhouette_held (place : Place) (x : Part) :
    (x.held place).map w.silhouette = FieldSilhouette.nodesIn (x.silhouettes w) := by
  cases x with
  | absent => rfl
  | one node =>
    rw [Part.held, node.map_silhouette_held, Part.silhouettes, FieldSilhouette.nodesIn,
      FieldSilhouette.nodesIn, List.append_nil]
  | many nodes => exact nodes.map_silhouette_held w 0 0

theorem Parts.map_silhouette_heldAt (owner : Place) (name : String) : (xs : Parts) →
    (xs.heldAt owner name).map w.silhouette = FieldSilhouette.nodesIn (xs.silhouettesAt w name)
  | .nil => rfl
  | .cons n part rest => by
    rw [Parts.heldAt, Parts.silhouettesAt]
    split
    · exact part.map_silhouette_held w _
    · exact rest.map_silhouette_heldAt owner name

end Held

/-! ### Silhouettes and children -/

/-- No other kind brings fields of its own. -/
theorem Kind.eq_dialect_of_shape {k : Kind} (hk : k.shape = .dialect) : k = .dialect := by
  have hall : ∀ k ∈ all, k.shape = .dialect → k = .dialect := by decide +kernel
  exact hall k (mem_all k) hk

/-- The silhouette of a built-in node has the kind of the node, and tells the nodes in its
fields. -/
theorem Body.silhouette_of_ne_dialect (w : Walker) (k : Kind) (owner : Place) {s : Shape}
    (n : Body s) (hs : s ≠ .dialect) :
    (n.silhouette w k).badge = (k, none) ∧
      (n.silhouette w k).children = .ok ((n.held owner).map w.silhouette) := by
  cases n with
  | atom data => exact ⟨rfl, rfl⟩
  | form fields => exact ⟨rfl, congrArg Except.ok (fields.map_silhouette_held w owner).symm⟩
  | dialect kind shown parts => exact absurd rfl hs

namespace Walker

variable (w : Walker)

/-- **The silhouette of a node tells its children**: what the node is known by, and the silhouettes
of its children or the failure to list them. -/
theorem silhouette_spec (h : Handle) :
    (w.silhouette h).badge = h.badge ∧
      (w.silhouette h).children = (w.children h).map (List.map w.silhouette) := by
  by_cases hk : h.kind = .dialect
  · obtain ⟨place, k, n⟩ := h
    obtain rfl : k = .dialect := hk
    cases n with
    | dialect kind shown parts =>
      refine ⟨rfl, ?_⟩
      rw [children_eq, row, Handle.dialectKind?]
      simp only [silhouette, Body.silhouette]
      cases w.registry.childOrder kind with
      | none => rfl
      | some order =>
        have hfields : ∀ name, (Handle.heldAt ⟨place, .dialect, .dialect kind shown parts⟩ name).map
            w.silhouette = FieldSilhouette.nodesIn (parts.silhouettesAt w name) :=
          fun name => parts.map_silhouette_heldAt w place name
        simp only [Option.map_some, Silhouette.children, Except.map, List.map_flatMap,
          List.flatMap_map, hfields]
  · have hshape : h.kind.shape ≠ .dialect := mt Kind.eq_dialect_of_shape hk
    obtain ⟨hbadge, hchildren⟩ := h.node.silhouette_of_ne_dialect w h.kind h.place hshape
    rw [w.children_eq_declared hk, Handle.badge, Handle.dialectKind?_eq_none_iff.2 hk]
    exact ⟨hbadge, hchildren⟩

variable {w} {h h' : Handle}

/-- Nodes with the same silhouette are known by the same. -/
theorem badge_eq_of_silhouette_eq (hsame : w.silhouette h' = w.silhouette h) :
    h'.badge = h.badge := by
  rw [← (w.silhouette_spec h).1, ← (w.silhouette_spec h').1, hsame]

/-- If the children of a node cannot be listed, then neither can those of another node with the
same silhouette. -/
theorem children_eq_error_of_silhouette_eq (hsame : w.silhouette h' = w.silhouette h)
    {e : WalkError} (he : w.children h = .error e) : w.children h' = .error e := by
  have hchildren := (w.silhouette_spec h').2
  rw [hsame, (w.silhouette_spec h).2, he] at hchildren
  cases hcs : w.children h' with
  | error e' =>
    rw [hcs] at hchildren
    cases hchildren
    rfl
  | ok cs =>
    rw [hcs] at hchildren
    cases hchildren

/-- Nodes with the same silhouette have children with the same silhouettes. -/
theorem exists_children_of_silhouette_eq (hsame : w.silhouette h' = w.silhouette h)
    {cs : List Handle} (hcs : w.children h = .ok cs) :
    ∃ cs', w.children h' = .ok cs' ∧ cs'.map w.silhouette = cs.map w.silhouette := by
  have hchildren := (w.silhouette_spec h').2
  rw [hsame, (w.silhouette_spec h).2, hcs] at hchildren
  cases hcs' : w.children h' with
  | error e =>
    rw [hcs'] at hchildren
    cases hchildren
  | ok cs' =>
    rw [hcs'] at hchildren
    exact ⟨cs', rfl, (Except.ok.inj hchildren).symm⟩

end Walker

end SqlTree
