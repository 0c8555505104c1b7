import SqlTree.Kind

/-!
# The log

What is reported while a walker is set up and while it walks. An entry of the log has a level, a
message and attributes, and is written on one line.
-/

set_option autoImplicit false

namespace SqlTree

/-- How much an entry matters. -/
inductive Level where
  | trace | debug | warn | error
  deriving DecidableEq

/-- The name of a level. -/
def Level.name : Level → String
  | trace => "TRACE"
  | debug => "DEBUG"
  | warn => "WARN"
  | error => "ERROR"

/-- An entry of the log. -/
inductive LogEvent where
  /-- A builder replaced the row of a kind. -/
  | registeredTwice (kind : String)
  /-- A walker was built over some dialect kinds. -/
  | built (count : Nat)
  /-- A visitor declined to descend into a node. -/
  | pruned (kind : Kind)
  /-- The children of a registered dialect node are about to be walked. -/
  | dispatching (kind : String) (fields : Nat)
  /-- A dialect node has no row. -/
  | unregistered (kind : String)
  deriving DecidableEq

namespace LogEvent

/-- The level of an entry. -/
def level : LogEvent → Level
  | registeredTwice _ => .warn
  | built _ => .debug
  | pruned _ => .trace
  | dispatching _ _ => .trace
  | unregistered _ => .error

/-- The message of an entry. -/
def message : LogEvent → String
  | registeredTwice kind =>
    "Dialect kind `" ++ kind ++ "` registered twice; keeping the last child order"
  | built count => "Built walker with " ++ toString count ++ " dialect kinds"
  | pruned _ => "Pruned subtree"
  | dispatching _ _ => "Dispatching dialect node"
  | unregistered _ => "Dialect node kind has no registered child order"

/-- The attributes of an entry. -/
def attributes : LogEvent → List (String × String)
  | registeredTwice _ => []
  | built _ => []
  | pruned kind => [("kind", kind.name)]
  | dispatching kind fields => [("kind", kind), ("fields", toString fields)]
  | unregistered kind => [("kind", kind)]

/-- The entry on one line. -/
def line (e : LogEvent) : String :=
  "!" ++ e.level.name ++ " " ++ e.message ++
    String.join (e.attributes.map fun a => " " ++ a.1 ++ "=" ++ a.2)

end LogEvent

end SqlTree
