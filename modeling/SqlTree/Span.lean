import SqlTree.Datum
import SqlTree.Dump

/-!
# Spans

A span is a range of byte offsets into a source text. Spans are data only: no walk ever looks
at them. A span may be inverted, past the end of the text or in the middle of a character, and
then it covers no text.

* `Span.slice` is the text that a span covers.
* `Span.ofDatum` reads a span from a sequence of two numbers or from a map with two fields.
-/

set_option autoImplicit false

namespace SqlTree

/-- A range of byte offsets, `start` included and `stop` excluded. -/
structure Span where
  start : UInt32 := 0
  stop : UInt32 := 0
  deriving DecidableEq, Inhabited

namespace Span

/-- The number of bytes in the range; none if the span is inverted. -/
def length (s : Span) : UInt32 :=
  if s.stop < s.start then 0 else s.stop - s.start

/-- Whether the range has no bytes. -/
def isEmpty (s : Span) : Bool :=
  s.length == 0

/-- Splits a text after exactly `n` bytes, where a character takes up as many bytes as its
UTF-8 form has. There is no split inside a character or past the end. -/
def splitBytes : Nat → List Char → Option (List Char × List Char)
  | 0, cs => some ([], cs)
  | _ + 1, [] => none
  | n + 1, c :: cs =>
    if c.utf8Size ≤ n + 1 then
      (splitBytes (n + 1 - c.utf8Size) cs).map fun p => (c :: p.1, p.2)
    else none

/-- The text that the span covers, if both its ends fall between characters of the source and
it is not inverted. -/
def slice (s : Span) (source : String) : Option String :=
  if s.start ≤ s.stop then do
    let (_, rest) ← splitBytes s.start.toNat source.toList
    let (text, _) ← splitBytes (s.stop.toNat - s.start.toNat) rest
    return String.ofList text
  else none

/-- Spans are ordered by their start and then by their stop. -/
def le (s t : Span) : Bool :=
  s.start < t.start || (s.start == t.start && s.stop ≤ t.stop)

/-- Spans in ascending order. -/
def sort (spans : List Span) : List Span :=
  spans.mergeSort le

/-- The span as a record. -/
def dump (s : Span) : Dump :=
  .record "Span" [("start", .word (toString s.start)), ("end", .word (toString s.stop))]

/-- The span as the text of an object with two fields. -/
def json (s : Span) : String :=
  "\x7b\"start\":" ++ toString s.start ++ ",\"end\":" ++ toString s.stop ++ "\x7d"

/-- Reads the fields of a span from the entries of a map, in the order of the entries. Other
fields are passed over. -/
def readEntries : List (String × Datum) → Option UInt32 × Option UInt32 →
    Except DatumError (Option UInt32 × Option UInt32)
  | [], fields => .ok fields
  | (name, d) :: entries, fields =>
    if name = "start" then do readEntries entries (some (← d.toUInt32), fields.2)
    else if name = "end" then do readEntries entries (fields.1, some (← d.toUInt32))
    else readEntries entries fields

/-- Reads a span: a sequence of its two numbers, or a map that has both as fields. -/
def ofDatum : Datum → Except DatumError Span
  | .sequence items => do
    match items with
    | [] => throw (.wrongLength 0 "struct Span with 2 elements")
    | [a] =>
      let _ ← a.toUInt32
      throw (.wrongLength 1 "struct Span with 2 elements")
    | a :: b :: rest =>
      let span : Span := ⟨← a.toUInt32, ← b.toUInt32⟩
      if rest.isEmpty then return span
      else throw (.wrongLength items.length "fewer elements in array")
  | .map entries => do
    match ← readEntries entries (none, none) with
    | (none, _) => throw (.missingField "start")
    | (_, none) => throw (.missingField "end")
    | (some start, some stop) => return ⟨start, stop⟩
  | d => .error (.wrongType d "struct Span")

end Span

end SqlTree
