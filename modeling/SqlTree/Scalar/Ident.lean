import SqlTree.Span

/-!
# Names

A name has a text, the quotation mark it was written in, if any, and the span it came from. A
dotted name is a list of names.

* `dottedName` writes a dotted name as it stands in a statement: quotation marks are put
  around quoted parts, and nothing inside them is escaped.
* `baseName` is the text of the last part.
-/

set_option autoImplicit false

namespace SqlTree

/-- A single name. -/
structure Ident where
  value : String
  quote : Option Char := none
  span : Span := {}
  deriving DecidableEq

namespace Ident

/-- The name as a record. -/
def dump (i : Ident) : Dump :=
  .record "Ident" [
    ("value", .word (Text.quoted i.value)),
    ("quote_style", .option (i.quote.map fun q => .word (Text.quotedChar q))),
    ("span", i.span.dump)]

/-- The name inside its quotation marks. -/
def display (i : Ident) : String :=
  match i.quote with
  | some q => q.toString ++ i.value ++ q.toString
  | none => i.value

end Ident

/-- The parts of a dotted name, with a point between them. -/
def dottedName : List Ident → String
  | [] => ""
  | [i] => i.display
  | i :: rest => i.display ++ "." ++ dottedName rest

/-- The text of the last part of a dotted name. -/
def baseName (parts : List Ident) : Option String :=
  parts.getLast?.map Ident.value

end SqlTree
