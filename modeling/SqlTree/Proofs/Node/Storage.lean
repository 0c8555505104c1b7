import Mathlib.Data.List.Dedup
import Mathlib.Data.Set.Basic
import SqlTree.Proofs.Node.Outline
import SqlTree.Survey

/-!
# Storage

A node that is stored by itself has a cell of its own, the items of a list have a block, and a node
that is part of another is stored with its owner. So the storage of a whole tree can be listed, one
entry for each place where the tree refers to it, and nothing is shared exactly if no entry occurs
twice. Blank nodes have no identity and take up no storage.

* `FieldType.isInline` singles out the fields whose nodes are part of their owner.
* `Handle.storage` lists the storage of a node and of everything below it, and `Walker.Unshared`
  says that nothing in the list occurs twice.
* `Handle.territory` are the places at which the nodes of a tree can be. `Walker.Parcels` says of
  some nodes that their territories are apart, and lie in a larger one.

Main statement: `Walker.Unshared.parcels`, the children of an unshared node are unshared, and their
territories are apart from each other and from the place of the node.
-/

set_option autoImplicit false

namespace SqlTree

/-! ### Inline fields -/

/-- Whether the nodes in a field of this type are part of the node that has the field. -/
def FieldType.isInline : FieldType → Bool
  | inline _ => true
  | optional τ => τ.isInline
  | _ => false

/-! ### Places and the storage that they lie in -/

/-- Storage that is set apart: for a single node, or for the items of a list. -/
inductive Storage where
  | cell (number : Nat)
  | block (number : Nat)
  deriving DecidableEq

/-- The storage that a place lies in. -/
def Place.storage : Place → Storage
  | cell number => .cell number
  | item block _ => .block block
  | field owner _ => owner.storage

/-- A place is that of a given node, or that of a part of the node. -/
inductive Place.Within (owner : Place) : Place → Prop where
  | self : Within owner owner
  | field {place : Place} (name : String) : Within owner place → Within owner (.field place name)

namespace Place.Within

variable {p q place : Place}

theorem storage_eq (hp : p.Within place) : place.storage = p.storage := by
  induction hp with
  | self => rfl
  | field name _ ih => exact ih

theorem of_field {name : String} (hp : (Place.field p name).Within place) : p.Within place := by
  induction hp with
  | self => exact .field name .self
  | field name' _ ih => exact .field name' ih

theorem sizeOf_le (hp : p.Within place) : sizeOf p ≤ sizeOf place := by
  induction hp with
  | self => exact Nat.le_refl _
  | field name _ ih =>
    rw [Place.field.sizeOf_spec]
    omega

/-- A place is not in a part of its own node. -/
theorem not_field (p : Place) (name : String) : ¬ (Place.field p name).Within p := by
  intro hp
  have hle := hp.sizeOf_le
  rw [Place.field.sizeOf_spec] at hle
  omega

/-- Of two places within which a third one is, one is within the other. -/
theorem linear (hp : p.Within place) (hq : q.Within place) : p.Within q ∨ q.Within p := by
  induction hp with
  | self => exact .inr hq
  | field name hp ih =>
    cases hq with
    | self => exact .inl (.field name hp)
    | field _ hq => exact ih hq

/-- Different fields of a node have no place in common. -/
theorem field_inj {m n : String} (hm : (Place.field p m).Within place)
    (hn : (Place.field p n).Within place) : m = n := by
  have hfields : ∀ {m n : String}, (Place.field p m).Within (.field p n) → m = n := by
    rintro m n (_ | ⟨_, hinner⟩)
    · rfl
    · exact absurd hinner (not_field p m)
  rcases hm.linear hn with hmn | hnm
  · exact hfields hmn
  · exact (hfields hnm).symm

/-- Different items of a list have no place in common. -/
theorem item_inj {block i j : Nat} (hi : (Place.item block i).Within place)
    (hj : (Place.item block j).Within place) : i = j := by
  rcases hi.linear hj with hij | hji
  · cases hij
    rfl
  · cases hji
    rfl

end Place.Within

/-! ### The storage that a node refers to -/

/-- The storage that a node takes up, if it is not part of another. A blank node takes up none. -/
def Kind.occupying (k : Kind) (s : Storage) : List Storage :=
  if k.isBlank then [] else [s]

example : Kind.all.filter Kind.isBlank = [.wildcard, .notNullColumnSpec, .dropDefaultColumnAction,
    .setNotNullColumnAction, .dropNotNullColumnAction] := by
  decide

/-- The block that the items of a list take up. No items take up none. -/
def Items.occupying (block : Nat) : {τ : FieldType} → Items τ → List Storage
  | _, .nil => []
  | _, .cons _ _ => [.block block]

mutual

/-- The storage that a node refers to, directly or further below, once for every reference. Of a
dialect node only the fields in the row of its kind count, and each of them once. -/
def Body.storage (w : Walker) : {s : Shape} → Body s → List Storage
  | _, .atom _ => []
  | _, .form fields => fields.storage w
  | _, .dialect kind _ parts =>
    ((w.registry.childOrder kind).getD []).dedup.flatMap fun name => parts.storageAt w name

/-- The storage that the fields of a form refer to. -/
def Fields.storage (w : Walker) : {fs : List FieldDecl} → Fields fs → List Storage
  | _, .nil => []
  | _, .cons content rest => content.storage w ++ rest.storage w

/-- The storage that a field refers to. -/
def Content.storage (w : Walker) : {τ : FieldType} → Content τ → List Storage
  | _, .flag _ => []
  | _, .choice _ => []
  | _, .lines _ => []
  | _, .inline node => node.storage w
  | _, .ref cell k _ node => k.occupying (.cell cell) ++ node.storage w
  | _, .arm condition result => condition.storage w ++ result.storage w
  | _, .absent => []
  | _, .present content => content.storage w
  | _, .list block items => items.occupying block ++ items.storage w

/-- The storage that the items of a list refer to. -/
def Items.storage (w : Walker) : {τ : FieldType} → Items τ → List Storage
  | _, .nil => []
  | _, .cons head tail => head.storage w ++ tail.storage w

/-- The storage that the first field with a given name refers to. -/
def Parts.storageAt (w : Walker) : Parts → String → List Storage
  | .nil, _ => []
  | .cons n part rest, name => if n = name then part.storage w else rest.storageAt w name

/-- The storage that a field of a dialect node refers to. -/
def Part.storage (w : Walker) : Part → List Storage
  | .absent => []
  | .one node => node.storage w
  | .many nodes => nodes.storage w

end

/-- The storage of a node and of everything below it. -/
def Handle.storage (w : Walker) (h : Handle) : List Storage :=
  h.kind.occupying h.place.storage ++ h.node.storage w

/-- Nothing is shared: no node at or below a given one is referred to twice, and no list has two
owners. -/
def Walker.Unshared (w : Walker) (h : Handle) : Prop :=
  (h.storage w).Nodup

instance (w : Walker) (h : Handle) : Decidable (w.Unshared h) :=
  inferInstanceAs (Decidable (h.storage w).Nodup)

-- a comparison of a stored name with itself refers to the name twice
example : ¬ ({} : Walker).Unshared .selfCompared := by decide

/-! ### Territories -/

/-- The places at which nodes of a tree can be: the place of its root, the places of the parts of
the root, and all places in the storage that it refers to. -/
def Handle.territory (w : Walker) (h : Handle) : Set Place :=
  {q | h.kind.isBlank = false ∧ (h.place.Within q ∨ q.storage ∈ h.node.storage w)}

/-- The places in the given storage. -/
def placesIn (storage : List Storage) : Set Place :=
  {q | q.storage ∈ storage}

@[simp]
theorem placesIn_nil : placesIn [] = ∅ := by
  simp [placesIn]

/-- The nodes of a list are unshared, and their territories are apart and lie in the given places or
the given storage. -/
structure Walker.Parcels (w : Walker) (own : Set Place) (storage : List Storage)
    (cs : List Handle) : Prop where
  unshared : ∀ c ∈ cs, w.Unshared c
  subset : ∀ c ∈ cs, c.territory w ⊆ own ∪ placesIn storage
  apart : cs.Pairwise fun c d => Disjoint (c.territory w) (d.territory w)

namespace Walker.Parcels

variable {w : Walker} {own own' : Set Place} {l l' : List Storage} {cs cs' : List Handle}

theorem nil (w : Walker) (own : Set Place) (l : List Storage) : w.Parcels own l [] :=
  ⟨by simp, by simp, .nil⟩

theorem singleton {c : Handle} (hc : w.Unshared c) (hsub : c.territory w ⊆ own ∪ placesIn l) :
    w.Parcels own l [c] :=
  ⟨by simpa using hc, by simpa using hsub, List.pairwise_singleton _ _⟩

/-- Nodes at different indices have no place in common. -/
theorem disjoint_of_ne (hcs : w.Parcels own l cs) {i j : Nat} (hij : i ≠ j) {c d : Handle}
    (hi : cs[i]? = some c) (hj : cs[j]? = some d) : Disjoint (c.territory w) (d.territory w) := by
  obtain ⟨hilen, rfl⟩ := List.getElem?_eq_some_iff.1 hi
  obtain ⟨hjlen, rfl⟩ := List.getElem?_eq_some_iff.1 hj
  have hapart := List.pairwise_iff_getElem.1 hcs.apart
  rcases Nat.lt_or_gt_of_ne hij with hlt | hlt
  · exact hapart i j hilen hjlen hlt
  · exact (hapart j i hjlen hilen hlt).symm

theorem mono (hcs : w.Parcels own l cs) (hsub : own ∪ placesIn l ⊆ own' ∪ placesIn l') :
    w.Parcels own' l' cs :=
  ⟨hcs.unshared, fun c hc => (hcs.subset c hc).trans hsub, hcs.apart⟩

theorem mono_own (hcs : w.Parcels own l cs) (hsub : own ⊆ own') : w.Parcels own' l cs :=
  hcs.mono (Set.union_subset_union_left _ hsub)

/-- Nodes in places that are apart, and in storage that is apart from these places. -/
theorem append (hcs : w.Parcels own l cs) (hcs' : w.Parcels own' l' cs')
    (hown : Disjoint own own') (hfree : ∀ q ∈ own ∪ own', q.storage ∉ l ++ l')
    (hl : (l ++ l').Nodup) : w.Parcels (own ∪ own') (l ++ l') (cs ++ cs') where
  unshared c hc := (List.mem_append.1 hc).elim (hcs.unshared c) (hcs'.unshared c)
  subset := by
    intro c hc q hq
    rcases List.mem_append.1 hc with hc | hc
    · rcases hcs.subset c hc hq with hq | hq
      · exact .inl (.inl hq)
      · exact .inr (List.mem_append_left l' hq)
    · rcases hcs'.subset c hc hq with hq | hq
      · exact .inl (.inr hq)
      · exact .inr (List.mem_append_right l hq)
  apart := by
    refine List.pairwise_append.2 ⟨hcs.apart, hcs'.apart, fun c hc d hd => ?_⟩
    refine Set.disjoint_left.2 fun q hqc hqd => ?_
    rcases hcs.subset c hc hqc with hq | hq <;> rcases hcs'.subset d hd hqd with hq' | hq'
    · exact Set.disjoint_left.1 hown hq hq'
    · exact hfree q (.inl hq) (List.mem_append_right l hq')
    · exact hfree q (.inr hq') (List.mem_append_left l' hq)
    · exact List.disjoint_of_nodup_append hl hq hq'

/-- Nodes in storage only. -/
theorem append_storage (hcs : w.Parcels ∅ l cs) (hcs' : w.Parcels ∅ l' cs')
    (hl : (l ++ l').Nodup) : w.Parcels ∅ (l ++ l') (cs ++ cs') := by
  refine (hcs.append hcs' (Set.disjoint_empty _) ?_ hl).mono_own (Set.union_empty ∅).subset
  intro q hq
  rw [Set.union_empty] at hq
  exact absurd hq (Set.notMem_empty q)

end Walker.Parcels

/-! ### The nodes in a field are in parcels -/

section Held

variable {w : Walker}

/-- A node that is referred to lies in the storage that the reference takes up. -/
theorem Content.parcels_ref {t : Target} (place : Place) : (x : Content (.ref t)) →
    (x.storage w).Nodup → w.Parcels ∅ (x.storage w) (x.held place)
  | .ref cell k accepted node, hx => by
    refine .singleton hx ?_
    rintro q ⟨hblank, hq⟩
    refine .inr ?_
    have hblank : k.isBlank = false := hblank
    rw [placesIn, Set.mem_ofPred_eq, Content.storage, Kind.occupying, hblank]
    rcases hq with hq | hq
    · rw [hq.storage_eq]
      exact List.mem_append_left _ List.mem_cons_self
    · exact List.mem_append_right _ hq

mutual

/-- The nodes in a field that is stored at a place. -/
theorem Content.parcels (place : Place) : {τ : FieldType} → (x : Content τ) →
    (x.storage w).Nodup → (τ.isInline = true → place.storage ∉ x.storage w) →
    w.Parcels {q | τ.isInline = true ∧ place.Within q} (x.storage w) (x.held place)
  | _, .flag _, _, _ => .nil _ _ _
  | _, .choice _, _, _ => .nil _ _ _
  | _, .lines _, _, _ => .nil _ _ _
  | .inline k, .inline node, hx, hplace => by
    refine .singleton ?_ ?_
    · rw [Walker.Unshared, Handle.storage, Kind.occupying]
      split
      · exact hx
      · exact List.nodup_cons.2 ⟨hplace rfl, hx⟩
    · rintro q ⟨-, hq | hq⟩
      · exact .inl ⟨rfl, hq⟩
      · exact .inr hq
  | _, .ref cell k accepted node, hx, _ => by
    have href := Content.parcels_ref place (.ref cell k accepted node) hx
    exact href.mono_own (Set.empty_subset _)
  | _, .arm condition result, hx, _ => by
    have hcondition := condition.parcels_ref (w := w) place (List.nodup_append.1 hx).1
    have hresult := result.parcels_ref (w := w) place (List.nodup_append.1 hx).2.1
    exact (hcondition.append_storage hresult hx).mono_own (Set.empty_subset _)
  | _, .absent, _, _ => .nil _ _ _
  | _, .present content, hx, hplace => content.parcels place hx hplace
  | _, .list block .nil, _, _ => .nil _ _ _
  | _, .list block (.cons head tail), hx, _ => by
    obtain ⟨hblock, hitems⟩ := List.nodup_cons.1 hx
    refine ((Items.cons head tail).parcels block 0 hitems fun _ => hblock).mono ?_
    -- the items lie in the block of the list
    rintro q (⟨-, i, -, hq⟩ | hq)
    · exact .inr (List.mem_cons.2 (.inl hq.storage_eq))
    · exact .inr (List.mem_cons_of_mem _ hq)

/-- The nodes in the items of a list, from an index on. -/
theorem Items.parcels (block index : Nat) : {τ : FieldType} → (xs : Items τ) →
    (xs.storage w).Nodup → (τ.isInline = true → Storage.block block ∉ xs.storage w) →
    w.Parcels {q | τ.isInline = true ∧ ∃ i, index ≤ i ∧ (Place.item block i).Within q}
      (xs.storage w) (xs.held block index)
  | _, .nil, _, _ => .nil _ _ _
  | τ, .cons head tail, hx, hblock => by
    have hhead := head.parcels (.item block index) (List.nodup_append.1 hx).1
      fun hτ hmem => hblock hτ (List.mem_append_left _ hmem)
    have htail := tail.parcels block (index + 1) (List.nodup_append.1 hx).2.1
      fun hτ hmem => hblock hτ (List.mem_append_right _ hmem)
    refine (hhead.append htail ?_ ?_ hx).mono_own ?_
    · refine Set.disjoint_left.2 ?_
      rintro q ⟨-, hq⟩ ⟨-, i, hi, hq'⟩
      have hindex := hq.item_inj hq'
      omega
    · rintro q (⟨hτ, hq⟩ | ⟨hτ, i, -, hq⟩)
      · rw [hq.storage_eq]
        exact hblock hτ
      · rw [hq.storage_eq]
        exact hblock hτ
    · rintro q (⟨hτ, hq⟩ | ⟨hτ, i, hi, hq⟩)
      · exact ⟨hτ, index, Nat.le_refl _, hq⟩
      · exact ⟨hτ, i, by omega, hq⟩

end

/-- The nodes in the fields of a form. -/
theorem Fields.parcels (owner : Place) : {fs : List FieldDecl} → (xs : Fields fs) →
    (fs.map Prod.fst).Nodup → (xs.storage w).Nodup → owner.storage ∉ xs.storage w →
    w.Parcels {q | ∃ n ∈ fs.map Prod.fst, (Place.field owner n).Within q} (xs.storage w)
      (xs.held owner)
  | _, .nil, _, _, _ => .nil _ _ _
  | (n, τ) :: fs, .cons content rest, hnames, hx, howner => by
    obtain ⟨hn, hnames⟩ := List.nodup_cons.1 hnames
    have hcontent := content.parcels (w := w) (.field owner n) (List.nodup_append.1 hx).1
      fun _ hmem => howner (List.mem_append_left _ hmem)
    have hrest := rest.parcels owner hnames (List.nodup_append.1 hx).2.1
      fun hmem => howner (List.mem_append_right _ hmem)
    refine (hcontent.append hrest ?_ ?_ hx).mono_own ?_
    · refine Set.disjoint_left.2 ?_
      rintro q ⟨-, hq⟩ ⟨m, hm, hq'⟩
      exact hn (hq.field_inj hq' ▸ hm)
    · rintro q (⟨-, hq⟩ | ⟨m, -, hq⟩)
      · rw [hq.storage_eq]
        exact howner
      · rw [hq.storage_eq]
        exact howner
    · rintro q (⟨-, hq⟩ | ⟨m, hm, hq⟩)
      · exact ⟨n, List.mem_cons_self, hq⟩
      · exact ⟨m, List.mem_cons_of_mem n hm, hq⟩

/-- The nodes in a field of a dialect node, all of which are referred to. -/
theorem Part.parcels (place : Place) (x : Part) (hx : (x.storage w).Nodup) :
    w.Parcels ∅ (x.storage w) (x.held place) := by
  cases x with
  | absent => exact .nil _ _ _
  | one node => exact node.parcels_ref place hx
  | many nodes =>
    refine (nodes.parcels 0 0 hx (by rintro ⟨⟩)).mono_own ?_
    rintro q ⟨⟨⟩, -⟩

theorem Parts.parcels_at (owner : Place) (name : String) : (xs : Parts) →
    (xs.storageAt w name).Nodup → w.Parcels ∅ (xs.storageAt w name) (xs.heldAt owner name)
  | .nil, _ => .nil _ _ _
  | .cons n part rest, hx => by
    rw [Parts.storageAt] at hx ⊢
    rw [Parts.heldAt]
    split at hx
    · rename_i hn
      rw [if_pos hn, if_pos hn]
      exact part.parcels _ hx
    · rename_i hn
      rw [if_neg hn, if_neg hn]
      exact rest.parcels_at owner name hx

/-- The nodes in the fields of a dialect node with the given names. -/
theorem Parts.parcels (owner : Place) (xs : Parts) : (names : List String) →
    (names.flatMap fun name => xs.storageAt w name).Nodup →
    w.Parcels ∅ (names.flatMap fun name => xs.storageAt w name)
      (names.flatMap fun name => xs.heldAt owner name)
  | [], _ => .nil _ _ _
  | name :: names, hx => by
    rw [List.flatMap_cons] at hx
    have hname := xs.parcels_at owner name (List.nodup_append.1 hx).1
    have hnames := Parts.parcels owner xs names (List.nodup_append.1 hx).2.1
    exact hname.append_storage hnames hx

/-- The nodes in the declared fields of a node. -/
theorem Body.parcels (owner : Place) {s : Shape} (n : Body s)
    (hnames : (s.fields.map Prod.fst).Nodup) (hn : (n.storage w).Nodup)
    (howner : owner.storage ∉ n.storage w) :
    w.Parcels {q | ∃ name, (Place.field owner name).Within q} (n.storage w) (n.held owner) := by
  cases n with
  | atom data => exact .nil _ _ _
  | form fields =>
    refine (fields.parcels owner hnames hn howner).mono_own ?_
    rintro q ⟨name, -, hq⟩
    exact ⟨name, hq⟩
  | dialect kind shown parts => exact .nil _ _ _

end Held

/-! ### The children of an unshared node -/

/-- Blank nodes hold no nodes. -/
theorem Body.held_eq_nil {s : Shape} (n : Body s) (hs : s = .form []) (owner : Place) :
    n.held owner = [] := by
  cases n with
  | atom data => rfl
  | form fields =>
    cases hs
    cases fields
    rfl
  | dialect kind shown parts => rfl

namespace Walker

/-- No registered row has a name twice. -/
def RowsDistinct (w : Walker) : Prop :=
  ∀ kind order, w.registry.childOrder kind = some order → order.Nodup

/-- The children of a dialect node are those in the fields of its row. -/
theorem exists_order_of_children {w : Walker} {place : Place} {kind : String} {shown : Dump}
    {parts : Parts} {cs : List Handle}
    (hcs : w.children ⟨place, .dialect, .dialect kind shown parts⟩ = .ok cs) :
    ∃ order, w.registry.childOrder kind = some order ∧
      (order.flatMap fun name => parts.heldAt place name) = cs := by
  rw [children_eq, row] at hcs
  cases horder : w.registry.childOrder kind with
  | none => simp [Handle.dialectKind?, horder, Except.map] at hcs
  | some order =>
    simp only [Handle.dialectKind?, horder, Except.map] at hcs
    exact ⟨order, rfl, Except.ok.inj hcs⟩

namespace Unshared

variable {w : Walker} {h : Handle}

theorem nodup_storage (hh : w.Unshared h) : (h.node.storage w).Nodup :=
  (List.nodup_append.1 hh).2.1

/-- Nothing below a node refers to the storage that the node itself lies in. -/
theorem place_notMem_storage (hh : w.Unshared h) (hblank : h.kind.isBlank = false) :
    h.place.storage ∉ h.node.storage w := by
  rw [Unshared, Handle.storage, Kind.occupying, hblank] at hh
  exact (List.nodup_cons.1 hh).1

/-- The children lie in the parts of their parent and in the storage that it refers to. -/
theorem parcels_children (hh : w.Unshared h) (hrows : w.RowsDistinct)
    (hblank : h.kind.isBlank = false) {cs : List Handle} (hcs : w.children h = .ok cs) :
    w.Parcels {q | ∃ name, (Place.field h.place name).Within q} (h.node.storage w) cs := by
  by_cases hk : h.kind = .dialect
  · obtain ⟨place, k, n⟩ := h
    obtain rfl : k = .dialect := hk
    cases n with
    | dialect kind shown parts =>
      obtain ⟨order, horder, rfl⟩ := exists_order_of_children hcs
      have hstorage := hh.nodup_storage
      -- a row without repeats asks for each of its fields once
      simp only [Body.storage, horder, Option.getD_some, (hrows kind order horder).dedup]
        at hstorage ⊢
      exact (parts.parcels place order hstorage).mono_own (Set.empty_subset _)
  · rw [w.children_eq_declared hk] at hcs
    cases hcs
    exact h.node.parcels h.place h.kind.nodup_fields hh.nodup_storage
      (hh.place_notMem_storage hblank)

/-- **The children of an unshared node** are unshared, and their territories are apart. They lie in
the territory of the node, and do not contain its place. -/
theorem parcels (hh : w.Unshared h) (hrows : w.RowsDistinct) {cs : List Handle}
    (hcs : w.children h = .ok cs) : w.Parcels (h.territory w \ {h.place}) [] cs := by
  cases hblank : h.kind.isBlank with
  | true =>
    have hshape : h.kind.shape = .form [] := by simpa [Kind.isBlank] using hblank
    have hk : h.kind ≠ .dialect := by
      rintro hk
      rw [hk] at hshape
      cases hshape
    rw [w.children_eq_declared hk, Handle.declared, h.node.held_eq_nil hshape] at hcs
    cases hcs
    exact .nil _ _ _
  | false =>
    refine (hh.parcels_children hrows hblank hcs).mono ?_
    rintro q (⟨name, hq⟩ | hq)
    · refine .inl ⟨⟨hblank, .inl hq.of_field⟩, ?_⟩
      rintro rfl
      exact Place.Within.not_field _ name hq
    · refine .inl ⟨⟨hblank, .inr hq⟩, ?_⟩
      rintro rfl
      exact hh.place_notMem_storage hblank hq

end Unshared

end Walker

end SqlTree
