import SqlTree.Dump
import SqlTree.Text.Quoted

/-!
# The registry of dialect kinds

A dialect node has no row in the child-order table. Its row is registered under the name of its
kind: the names of the fields that hold its children, in walk order. Names may repeat, and they
need not be names of fields that every node of the kind has.

* `Registry.register` adds or replaces a row, `Registry.childOrder` looks one up.
* `Registry.kinds` and `Registry.sorted` list the registry in the order of the names.
-/

set_option autoImplicit false

namespace SqlTree

/-- Rows of dialect kinds. No kind has two of them. -/
structure Registry where
  entries : List (String × List String) := []
  distinct : (entries.map Prod.fst).Nodup := by exact List.nodup_nil

namespace Registry

/-- The registry without rows. -/
def empty : Registry := {}

/-- The row of a kind. -/
def childOrder (r : Registry) (kind : String) : Option (List String) :=
  r.entries.lookup kind

/-- The registry with a row for `kind`, which takes the place of any other. -/
def insert (r : Registry) (kind : String) (order : List String) : Registry where
  entries := (kind, order) :: r.entries.filter fun e => e.1 != kind
  distinct := by
    rw [List.map_cons, List.nodup_cons]
    refine ⟨fun h => ?_, r.distinct.sublist (List.filter_sublist.map _)⟩
    obtain ⟨e, he, hk⟩ := List.mem_map.1 h
    have hne := (List.mem_filter.1 he).2
    simp [hk] at hne

@[simp]
theorem childOrder_empty (kind : String) : empty.childOrder kind = none := rfl

/-- After an insertion the inserted kind has the inserted row, and all others are as before. -/
theorem childOrder_insert (r : Registry) (kind : String) (order : List String) (k : String) :
    (r.insert kind order).childOrder k = if k = kind then some order else r.childOrder k := by
  simp only [childOrder, insert, List.lookup_cons]
  by_cases h : k = kind
  · simp [h]
  · simp only [beq_eq_false_iff_ne.2 h, if_neg h]
    induction r.entries with
    | nil => rfl
    | cons e es ih =>
      obtain ⟨n, row⟩ := e
      by_cases hn : n = kind
      · subst hn
        simp [List.lookup_cons, beq_eq_false_iff_ne.2 h, ih]
      · simp [List.lookup_cons, hn, ih]

/-- Registers the row of a kind, and gives the row that it had before. -/
def register (r : Registry) (kind : String) (order : List String) :
    Option (List String) × Registry :=
  (r.childOrder kind, r.insert kind order)

/-- Whether a kind has a row. -/
def contains (r : Registry) (kind : String) : Bool :=
  (r.childOrder kind).isSome

/-- The number of rows. -/
def size (r : Registry) : Nat :=
  r.entries.length

/-- Whether there are no rows. -/
def isEmpty (r : Registry) : Bool :=
  r.entries.isEmpty

/-- The rows, in the order of the names of their kinds. Texts are ordered by the codes of their
characters. -/
def sorted (r : Registry) : List (String × List String) :=
  r.entries.mergeSort fun a b => !decide (b.1 < a.1)

/-- The registered kinds in order. -/
def kinds (r : Registry) : List String :=
  r.sorted.map Prod.fst

/-- Registers rows one after the other. -/
def ofEntries (entries : List (String × List String)) : Registry :=
  entries.foldl (fun r e => r.insert e.1 e.2) empty

/-- The registry as a record that holds a table of rows. -/
def dump (r : Registry) : Dump :=
  .record "DialectRegistry" [("orders", .table (r.sorted.map fun e =>
    (Text.quoted e.1, .list (e.2.map fun name => .word (Text.quoted name)))))]

end Registry

end SqlTree
