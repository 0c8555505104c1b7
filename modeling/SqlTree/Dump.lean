/-!
# Dumps

A *dump* shows a value by its construction: the name of the variant or record, then its parts.
It is kept as a tree of words and bracketed groups, in which a value may also stand that writes
itself, and can be laid out in two ways.

* `Dump.compact` writes everything on one line.
* `Dump.pretty` gives every part of a group a line of its own, four columns further in than
  the group itself, with a comma after each part.

A group without parts is never opened: an empty record is just its name and an empty list its
two brackets.
-/

set_option autoImplicit false

namespace SqlTree

/-- What surrounds the parts of a group. -/
inductive Bracket where
  /-- A record: its name, then labelled parts in braces. -/
  | record (name : String)
  /-- A variant: its name, then its parts in parentheses. -/
  | variant (name : String)
  /-- A list in square brackets. -/
  | list
  /-- A table in braces, without a name. -/
  | table
  deriving DecidableEq

namespace Bracket

/-- The text of a group that has no parts. -/
def empty : Bracket → String
  | record name => name
  | variant name => name
  | list => "[]"
  | table => "\x7b\x7d"

/-- The text up to and including the opening bracket. -/
def opening : Bracket → String
  | record name => name ++ " \x7b"
  | variant name => name ++ "("
  | list => "["
  | table => "\x7b"

/-- The closing bracket. -/
def closing : Bracket → String
  | record _ => "\x7d"
  | variant _ => ")"
  | list => "]"
  | table => "\x7d"

/-- What stands between a bracket and its parts on one line: records leave a blank. -/
def padding : Bracket → String
  | record _ => " "
  | _ => ""

end Bracket

/-- A value shown by its construction. Each part of a group has a label, which is written
right before it and may be empty. -/
inductive Dump where
  | word (text : String)
  /-- A value that is not shown by its construction but writes itself: the text for one line, and
  the text for lines of their own. -/
  | own (line page : String)
  | group (bracket : Bracket) (parts : List (String × Dump))

namespace Dump

/-- A record with named fields. -/
def record (name : String) (fields : List (String × Dump)) : Dump :=
  group (.record name) (fields.map fun f => (f.1 ++ ": ", f.2))

/-- A variant that carries values. -/
def variant (name : String) (parts : List Dump) : Dump :=
  group (.variant name) (parts.map fun d => ("", d))

/-- A list of values. -/
def list (items : List Dump) : Dump :=
  group .list (items.map fun d => ("", d))

/-- A table from keys to values. -/
def table (entries : List (String × Dump)) : Dump :=
  group .table (entries.map fun e => (e.1 ++ ": ", e.2))

/-- An optional value, as one of two variants. -/
def option : Option Dump → Dump
  | none => word "None"
  | some d => variant "Some" [d]

/-- A truth value. -/
def bool (b : Bool) : Dump :=
  word (if b then "true" else "false")

mutual

/-- The dump on one line. -/
def compact : Dump → String
  | word text => text
  | own line _ => line
  | group b [] => b.empty
  | group b (p :: ps) =>
    b.opening ++ b.padding ++ compactPart p ++ compactRest ps ++ b.padding ++ b.closing

/-- One part, after its label. -/
def compactPart : String × Dump → String
  | (label, d) => label ++ compact d

/-- The parts that follow the first, each after a comma. -/
def compactRest : List (String × Dump) → String
  | [] => ""
  | p :: ps => ", " ++ compactPart p ++ compactRest ps

end

/-- Moves every line of a text four columns in. -/
def indent (s : String) : String :=
  "    " ++ String.ofList (s.toList.flatMap fun c => if c = '\n' then "\n    ".toList else [c])

mutual

/-- The dump with a line for every part. -/
def pretty : Dump → String
  | word text => text
  | own _ page => page
  | group b [] => b.empty
  | group b (p :: ps) => b.opening ++ "\n" ++ prettyPart p ++ prettyRest ps ++ b.closing

/-- One part on lines of its own, after its label and before a comma. -/
def prettyPart : String × Dump → String
  | (label, d) => indent (label ++ pretty d ++ ",") ++ "\n"

/-- The parts that follow the first. -/
def prettyRest : List (String × Dump) → String
  | [] => ""
  | p :: ps => prettyPart p ++ prettyRest ps

end

end Dump

end SqlTree
