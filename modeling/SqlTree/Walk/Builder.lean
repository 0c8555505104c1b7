import SqlTree.Walk.Walker

/-!
# Building walkers

A builder collects rows for a walker. Registering a kind for a second time is reported and keeps
the later row; replacing the whole registry is not reported. Building a walker that knows any
dialect kinds is reported with their number.
-/

set_option autoImplicit false

namespace SqlTree

/-- A walker in the making. -/
structure Builder where
  registry : Registry := .empty

namespace Builder

/-- One step of the making. -/
inductive Step where
  /-- Register the row of one kind. -/
  | register (kind : String) (order : List String)
  /-- Start over from another registry. -/
  | replace (registry : Registry)

/-- Registers a row. -/
def register (b : Builder) (kind : String) (order : List String) : Builder × List LogEvent :=
  let (previous, registry) := b.registry.register kind order
  (⟨registry⟩, if previous.isSome then [.registeredTwice kind] else [])

/-- Takes one step. -/
def step (b : Builder) : Step → Builder × List LogEvent
  | .register kind order => b.register kind order
  | .replace registry => (⟨registry⟩, [])

/-- Takes steps one after the other. -/
def run (b : Builder) : List Step → Builder × List LogEvent
  | [] => (b, [])
  | s :: steps =>
    let (b, entries) := b.step s
    let (b, later) := b.run steps
    (b, entries ++ later)

/-- The finished walker. -/
def build (b : Builder) : Walker × List LogEvent :=
  (⟨b.registry⟩, if b.registry.isEmpty then [] else [.built b.registry.size])

/-- The walker that some steps lead to, with everything that is reported on the way. -/
def setUp (steps : List Step) : Walker × List LogEvent :=
  let (b, entries) := run {} steps
  let (w, later) := b.build
  (w, entries ++ later)

/-- The builder as a record. -/
def dump (b : Builder) : Dump :=
  .record "WalkerBuilder" [("registry", b.registry.dump)]

end Builder

end SqlTree
