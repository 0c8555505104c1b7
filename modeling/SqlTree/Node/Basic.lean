import SqlTree.Grammar.Rules

/-!
# Nodes

A node is typed by its kind: the grammar fixes which fields it has and what each of them may
hold, so an ill-formed tree cannot be written down. References and lists carry the number of
the place where they are stored. The number of a reference stands for the identity of the node, that
is for its kind and its address: two references with the same number are the same stored node, and
a copied node keeps the numbers of everything that is not part of it.

* `Node k` is a node of kind `k`; `Body`, `Fields`, `Content` and `Items` are its layers.
* `Part` is what a field of a dialect node holds.
* `Body.size` counts the nodes and fields below a node; every walk descends along it.
-/

set_option autoImplicit false

namespace SqlTree

mutual

/-- What a node of a given shape consists of. -/
inductive Body : Shape → Type where
  | atom {t : AtomType} (data : t.Carrier) : Body (.atom t)
  | form {fs : List FieldDecl} (fields : Fields fs) : Body (.form fs)
  /-- A node that is declared elsewhere brings the name of its form, the dump that it shows itself
  by, and what its fields hold. -/
  | dialect (kind : String) (shown : Dump) (parts : Parts) : Body .dialect

/-- What the declared fields of a form hold. -/
inductive Fields : List FieldDecl → Type where
  | nil : Fields []
  | cons {n : String} {τ : FieldType} {fs : List FieldDecl} (content : Content τ)
      (rest : Fields fs) : Fields ((n, τ) :: fs)

/-- What a field of a given type holds. -/
inductive Content : FieldType → Type where
  | flag (value : Bool) : Content .flag
  | choice (value : Option Bool) : Content .choice
  | lines (values : List (Option String)) : Content .lines
  | inline {k : Kind} (node : Body k.shape) : Content (.inline k)
  | ref {t : Target} (cell : Nat) (k : Kind) (accepted : t.accepts k = true)
      (node : Body k.shape) : Content (.ref t)
  | arm (condition result : Content .expr) : Content .arm
  | absent {τ : FieldType} : Content (.optional τ)
  | present {τ : FieldType} (content : Content τ) : Content (.optional τ)
  | list {τ : FieldType} (block : Nat) (items : Items τ) : Content (.list τ)

/-- The items of a list. -/
inductive Items : FieldType → Type where
  | nil {τ : FieldType} : Items τ
  | cons {τ : FieldType} (head : Content τ) (tail : Items τ) : Items τ

/-- The fields that a dialect node brings, with their names. -/
inductive Parts : Type where
  | nil : Parts
  | cons (name : String) (part : Part) (rest : Parts) : Parts

/-- What a field of a dialect node hands out: nothing, one node or a list of nodes. How they are
stored is up to the dialect node, and they may be parts of it; only the identity of each of them is
known, by its number. A part that has the kind and the address of a node above it has the number of
that node too, so the two count as one shared node. -/
inductive Part : Type where
  | absent : Part
  | one (node : Content (.ref .any)) : Part
  | many (nodes : Items (.ref .any)) : Part

end

/-- A node of a given kind. -/
abbrev Node (k : Kind) : Type := Body k.shape

/-! ### Size -/

mutual

/-- The number of nodes and fields at and below a node. -/
def Body.size : {s : Shape} → Body s → Nat
  | _, .atom _ => 1
  | _, .form fields => fields.size + 1
  | _, .dialect _ _ parts => parts.size + 1

/-- The size of the fields of a form. -/
def Fields.size : {fs : List FieldDecl} → Fields fs → Nat
  | _, .nil => 0
  | _, .cons content rest => content.size + rest.size + 1

/-- The size of what a field holds. -/
def Content.size : {τ : FieldType} → Content τ → Nat
  | _, .flag _ => 0
  | _, .choice _ => 0
  | _, .lines _ => 0
  | _, .inline node => node.size
  | _, .ref _ _ _ node => node.size
  | _, .arm condition result => condition.size + result.size
  | _, .absent => 0
  | _, .present content => content.size
  | _, .list _ items => items.size

/-- The size of the items of a list. -/
def Items.size : {τ : FieldType} → Items τ → Nat
  | _, .nil => 0
  | _, .cons head tail => head.size + tail.size

/-- The size of the fields of a dialect node. -/
def Parts.size : Parts → Nat
  | .nil => 0
  | .cons _ part rest => part.size + rest.size + 1

/-- The size of what a field of a dialect node holds. -/
def Part.size : Part → Nat
  | .absent => 0
  | .one node => node.size
  | .many nodes => nodes.size

end

/-! ### Lists -/

namespace Items

/-- The items as a list. -/
def toList : {τ : FieldType} → Items τ → List (Content τ)
  | _, .nil => []
  | _, .cons head tail => head :: tail.toList

/-- The items of a list. -/
def ofList {τ : FieldType} : List (Content τ) → Items τ
  | [] => .nil
  | x :: xs => .cons x (ofList xs)

@[simp]
theorem toList_ofList {τ : FieldType} (xs : List (Content τ)) : (ofList xs).toList = xs := by
  induction xs with
  | nil => rfl
  | cons x xs ih => simp [ofList, toList, ih]

@[simp]
theorem ofList_toList : {τ : FieldType} → (xs : Items τ) → ofList xs.toList = xs
  | _, .nil => rfl
  | _, .cons head tail => by simp [ofList, toList, ofList_toList tail]

end Items

/-! ### Parts of dialect nodes -/

namespace Part

/-- The number of nodes in a field. -/
def length : Part → Nat
  | absent => 0
  | one _ => 1
  | many nodes => nodes.toList.length

/-- Whether a field holds no node. -/
def isEmpty (p : Part) : Bool :=
  p.length == 0

/-- A field that has not been given holds nothing. -/
instance : Inhabited Part := ⟨absent⟩

end Part

end SqlTree
