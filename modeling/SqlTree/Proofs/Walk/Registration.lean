import Mathlib
import SqlTree.Proofs.Walk.Journal
import SqlTree.Walk.Builder

/-!
# What registries and builders remember

A registry is made by registrations, and a builder by registrations and by replacements of its
whole registry. What either of them can be asked afterwards, and all that is reported on the way,
is told here through the history of the operations alone.

* `lastRow` is the row under which a list of registrations mentions a kind last.
* `Registry.Tells r row?`: all that `r` can be asked is answered according to the rows `row?`.
* `Registry.registerAll` registers rows one after the other and notes what comes back.
* `Builder.orderAfter` is the row that a history of steps leaves a kind with: the last one
  registered since the last replacement, and otherwise the one in the registry put in its place.

Main statement: `Builder.setUp_tells_history`.
-/

set_option autoImplicit false

namespace SqlTree

/-! ### Histories -/

/-- The items of a list, each with all those before it. -/
def withPast {α : Type} (l : List α) : List (List α × α) :=
  l.zipIdx.map fun x => (l.take x.2, x.1)

theorem withPast_concat {α : Type} (l : List α) (a : α) :
    withPast (l ++ [a]) = withPast l ++ [(l, a)] := by
  have hpast : ∀ x ∈ l.zipIdx, ((l ++ [a]).take x.2, x.1) = (l.take x.2, x.1) := by
    rintro ⟨b, i⟩ hb
    obtain ⟨-, hi, -⟩ := List.mem_zipIdx hb
    rw [List.take_append_of_le_length (by omega)]
  rw [withPast, withPast, List.zipIdx_append, List.map_append, List.map_congr_left hpast]
  simp

/-- The row under which a kind was registered last. -/
def lastRow (rows : List (String × List String)) (kind : String) : Option (List String) :=
  rows.reverse.lookup kind

theorem lastRow_concat (rows : List (String × List String)) (kind : String)
    (order : List String) (k : String) :
    lastRow (rows ++ [(kind, order)]) k = if k = kind then some order else lastRow rows k := by
  rw [lastRow, List.reverse_append, List.reverse_singleton, List.singleton_append,
    List.lookup_cons]
  by_cases hk : k = kind
  · simp [hk]
  · simp [lastRow, beq_eq_false_iff_ne.2 hk, hk]

/-! ### What a registry can be asked -/

namespace Registry

/-- The registry answers all questions according to the given rows. -/
structure Tells (r : Registry) (row? : String → Option (List String)) : Prop where
  /-- The row of a kind is the given one. -/
  childOrder_eq : ∀ k, r.childOrder k = row? k
  /-- The kinds with a row are the ones that the registry contains. -/
  contains_iff : ∀ k, r.contains k ↔ (row? k).isSome
  /-- No kind is listed twice. -/
  kinds_nodup : r.kinds.Nodup
  /-- The kinds with a row are the ones that are listed. -/
  mem_kinds_iff : ∀ k, k ∈ r.kinds ↔ (row? k).isSome
  /-- The size is the number of kinds with a row. -/
  size_eq : r.size = Set.ncard {k | (row? k).isSome}
  /-- The registry is empty if no kind has a row, and only then. -/
  isEmpty_iff : r.isEmpty ↔ ∀ k, row? k = none

/-- The listed kinds are those of the rows, in another order. -/
theorem kinds_perm (r : Registry) : r.kinds.Perm (r.entries.map Prod.fst) :=
  (List.mergeSort_perm r.entries _).map Prod.fst

theorem mem_kinds {r : Registry} {k : String} : k ∈ r.kinds ↔ (r.childOrder k).isSome := by
  rw [r.kinds_perm.mem_iff, childOrder, List.lookup_isSome_iff]
  simp only [List.mem_map, beq_iff_eq, @eq_comm _ k]

theorem length_kinds (r : Registry) : r.kinds.length = r.size := by
  rw [r.kinds_perm.length_eq, List.length_map, size]

/-- The look-up of rows decides all other answers. -/
theorem tells_childOrder (r : Registry) : r.Tells r.childOrder where
  childOrder_eq _ := rfl
  contains_iff _ := Iff.rfl
  kinds_nodup := r.kinds_perm.nodup_iff.2 r.distinct
  mem_kinds_iff _ := mem_kinds
  size_eq := by
    have hset : {k | (r.childOrder k).isSome} = ↑r.kinds.toFinset := by
      ext k
      simp [mem_kinds]
    rw [hset, Set.ncard_coe_finset,
      List.toFinset_card_of_nodup (r.kinds_perm.nodup_iff.2 r.distinct), length_kinds]
  isEmpty_iff := by
    rw [isEmpty, List.isEmpty_iff]
    constructor
    · intro hentries k
      rw [childOrder, hentries, List.lookup_nil]
    · intro hnone
      refine List.eq_nil_iff_forall_not_mem.2 fun e he => ?_
      have hlookup := hnone e.1
      rw [childOrder, List.lookup_eq_none_iff] at hlookup
      simpa using hlookup e he

theorem tells_of_childOrder_eq {r : Registry} {row? : String → Option (List String)}
    (hrow : ∀ k, r.childOrder k = row? k) : r.Tells row? := by
  obtain rfl : r.childOrder = row? := funext hrow
  exact r.tells_childOrder

/-! ### Registrations one after the other -/

/-- Registers rows one after the other, and lists what the registrations give back. -/
def registerAll (r : Registry) :
    List (String × List String) → List (Option (List String)) × Registry
  | [] => ([], r)
  | (kind, order) :: rows =>
    let (previous, r) := r.register kind order
    let (later, r) := r.registerAll rows
    (previous :: later, r)

/-- The last registration gives back the row that its kind had until then. -/
theorem registerAll_concat (r : Registry) (rows : List (String × List String)) (kind : String)
    (order : List String) :
    r.registerAll (rows ++ [(kind, order)]) =
      ((r.registerAll rows).1 ++ [(r.registerAll rows).2.childOrder kind],
        (r.registerAll rows).2.insert kind order) := by
  induction rows generalizing r with
  | nil => rfl
  | cons row rows ih =>
    obtain ⟨kind', order'⟩ := row
    simp only [List.cons_append, registerAll, ih, register]

/-- **A registry keeps the last row of every kind.** -/
theorem childOrder_registerAll (rows : List (String × List String)) (k : String) :
    (empty.registerAll rows).2.childOrder k = lastRow rows k := by
  induction rows using List.reverseRecOn with
  | nil => rfl
  | append_singleton rows row ih =>
    obtain ⟨kind, order⟩ := row
    rw [registerAll_concat, childOrder_insert, lastRow_concat, ih]

/-- Every registration gives back what looking the kind up would have given just before. -/
theorem fst_registerAll (rows : List (String × List String)) :
    (empty.registerAll rows).1 =
      (withPast rows).map fun x => (empty.registerAll x.1).2.childOrder x.2.1 := by
  induction rows using List.reverseRecOn with
  | nil => rfl
  | append_singleton rows row ih =>
    obtain ⟨kind, order⟩ := row
    rw [registerAll_concat, withPast_concat, List.map_append, ← ih]
    rfl

end Registry

/-! ### Steps of a builder -/

namespace Builder

namespace Step

/-- The row that a step registers. -/
def row? : Step → Option (String × List String)
  | register kind order => some (kind, order)
  | replace _ => none

/-- The registry that a step puts in the place of another. -/
def registry? : Step → Option Registry
  | register _ _ => none
  | replace registry => some registry

end Step

/-- The registry of the last replacement, if there was one. -/
def replacement? (steps : List Step) : Option Registry :=
  steps.reverse.findSome? Step.registry?

/-- The rows that were registered after the last replacement. -/
def rowsSince (steps : List Step) : List (String × List String) :=
  (steps.rtakeWhile fun s => s.row?.isSome).filterMap Step.row?

/-- The row that a history of steps leaves a kind with. -/
def orderAfter (steps : List Step) (kind : String) : Option (List String) :=
  (lastRow (rowsSince steps) kind).or ((replacement? steps).bind (·.childOrder kind))

theorem orderAfter_concat_register (steps : List Step) (kind : String) (order : List String)
    (k : String) :
    orderAfter (steps ++ [.register kind order]) k =
      if k = kind then some order else orderAfter steps k := by
  have hrows :
      rowsSince (steps ++ [.register kind order]) = rowsSince steps ++ [(kind, order)] := by
    rw [rowsSince, List.rtakeWhile_concat_pos _ _ _ rfl, List.filterMap_append]
    rfl
  have hbase : replacement? (steps ++ [.register kind order]) = replacement? steps := by
    rw [replacement?, List.reverse_append]
    rfl
  rw [orderAfter, orderAfter, hrows, hbase, lastRow_concat]
  by_cases hk : k = kind <;> simp [hk]

theorem orderAfter_concat_replace (steps : List Step) (registry : Registry) :
    orderAfter (steps ++ [.replace registry]) = registry.childOrder := by
  funext k
  have hrows : rowsSince (steps ++ [.replace registry]) = [] := by
    rw [rowsSince, List.rtakeWhile_concat_neg _ _ _ (by simp [Step.row?]), List.filterMap_nil]
  have hbase : replacement? (steps ++ [.replace registry]) = some registry := by
    rw [replacement?, List.reverse_append]
    rfl
  rw [orderAfter, hrows, hbase]
  rfl

theorem run_concat (b : Builder) (steps : List Step) (s : Step) :
    b.run (steps ++ [s]) =
      (((b.run steps).1.step s).1, (b.run steps).2 ++ ((b.run steps).1.step s).2) := by
  induction steps generalizing b with
  | nil => simp [run]
  | cons s' steps ih => simp only [List.cons_append, run, ih, List.append_assoc]

/-- **A builder holds what its history leaves.** -/
theorem childOrder_run (steps : List Step) (k : String) :
    (run {} steps).1.registry.childOrder k = orderAfter steps k := by
  induction steps using List.reverseRecOn with
  | nil => rfl
  | append_singleton steps s ih =>
    rw [run_concat]
    cases s with
    | register kind order =>
      rw [orderAfter_concat_register, ← ih]
      exact Registry.childOrder_insert _ kind order k
    | replace registry =>
      rw [orderAfter_concat_replace]
      rfl

/-! ### What is reported -/

/-- What a step is reported with, in the words of the log, if the kinds have the given rows
before it: a registration is if its kind has a row, and a replacement never is. -/
def warning (row? : String → Option (List String)) :
    Step → List (Level × String × List (String × String))
  | .register kind _ =>
    if (row? kind).isSome then
      [(.warn, "Dialect kind `" ++ kind ++ "` registered twice; keeping the last child order", [])]
    else []
  | .replace _ => []

/-- What the making of a walker is reported with, in the words of the log. -/
def announcement (size : Nat) : List (Level × String × List (String × String)) :=
  if size = 0 then [] else [(.debug, "Built walker with " ++ toString size ++ " dialect kinds", [])]

theorem map_written_step (b : Builder) (s : Step) :
    (b.step s).2.map LogEvent.written = warning b.registry.childOrder s := by
  cases s with
  | register kind order =>
    have hstep : (b.step (.register kind order)).2 =
        if (b.registry.childOrder kind).isSome then [.registeredTwice kind] else [] := rfl
    rw [hstep, warning]
    split <;> rfl
  | replace registry => rfl

theorem map_written_run (steps : List Step) :
    (run {} steps).2.map LogEvent.written =
      (withPast steps).flatMap fun x => warning (orderAfter x.1) x.2 := by
  induction steps using List.reverseRecOn with
  | nil => rfl
  | append_singleton steps s ih =>
    have horder : (run {} steps).1.registry.childOrder = orderAfter steps :=
      funext (childOrder_run steps)
    rw [run_concat, List.map_append, ih, map_written_step, horder, withPast_concat,
      List.flatMap_append, List.flatMap_singleton]

theorem map_written_build (b : Builder) :
    b.build.2.map LogEvent.written = announcement b.registry.size := by
  have hempty : b.registry.isEmpty = (b.registry.size == 0) := by
    rw [Registry.isEmpty, Registry.size]
    cases b.registry.entries <;> rfl
  rw [build, announcement, hempty]
  by_cases hsize : b.registry.size = 0
  · simp [hsize]
  · simp only [beq_eq_false_iff_ne.2 hsize, if_neg hsize]
    rfl

/-- **Walkers tell the history of their making.** Whatever steps lead to a walker, its registry
answers all questions by the row that was registered last since the last replacement, and
otherwise by the registry that was put in then. A registration is reported exactly if its kind has
a row at that moment, a replacement is not, and the walker is reported with the number of its
dialect kinds unless there are none. A registry answers by the last row of every kind among the
registrations that it was made by, and each of these gives back what looking up its kind would have
given just before. -/
theorem setUp_tells_history (steps : List Step) :
    (setUp steps).1.registry.Tells (orderAfter steps) ∧
    (setUp steps).2.map LogEvent.written =
      ((withPast steps).flatMap fun x => warning (orderAfter x.1) x.2) ++
        announcement (setUp steps).1.registry.size ∧
    ∀ rows,
      (Registry.empty.registerAll rows).2.Tells (lastRow rows) ∧
      (Registry.empty.registerAll rows).1 =
        (withPast rows).map fun x => (Registry.empty.registerAll x.1).2.childOrder x.2.1 := by
  have hregistry : (setUp steps).1.registry = (run {} steps).1.registry := rfl
  have hlog : (setUp steps).2 = (run {} steps).2 ++ (run {} steps).1.build.2 := rfl
  refine ⟨?_, ?_, fun rows => ⟨?_, Registry.fst_registerAll rows⟩⟩
  · rw [hregistry]
    exact Registry.tells_of_childOrder_eq (childOrder_run steps)
  · rw [hlog, hregistry, List.map_append, map_written_run, map_written_build]
  · exact Registry.tells_of_childOrder_eq (Registry.childOrder_registerAll rows)

/-- A row that a replacement discards does not count against a later one, a row that it brings
does. -/
example :
    (setUp [.register "hint" ["name"], .replace (.ofEntries [("cast", ["expr"])]),
      .register "hint" [], .register "cast" []]).2 = [.registeredTwice "cast", .built 2] := by
  decide

end Builder

end SqlTree
