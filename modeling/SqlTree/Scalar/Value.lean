import SqlTree.Decimal.Layout
import SqlTree.Dump
import SqlTree.Text.Quoted

/-!
# Literals

A literal keeps the form in which it was written: two literals of different forms are never
equal, even if a database would take them for the same value. Doubles compare as numbers do,
so that the two zeros are equal and not-a-number differs from itself.
-/

set_option autoImplicit false

namespace SqlTree

/-- A literal. -/
inductive Value where
  | null
  | long (n : Int64)
  | double (x : Float)
  | singleQuoted (s : String)
  | national (s : String)
  | boolean (b : Bool)
  | date (s : String)
  | time (s : String)
  | dateTime (s : String)
  | timestamp (s : String)
  deriving BEq

/-- Doubles in literals are shown positionally from `10 ^ -4` up to, not including, `10 ^ 16`;
positive exponents of all others have no sign. -/
def Value.layout : Decimal.Layout := ⟨-4, 15, false⟩

/-- The literal as a variant. -/
def Value.dump : Value → Dump
  | null => .word "Null"
  | long n => .variant "Long" [.word (toString n)]
  | double x => .variant "Double" [.word (layout.write x)]
  | singleQuoted s => text "SingleQuotedString" s
  | national s => text "NationalStringLiteral" s
  | boolean b => .variant "Boolean" [.bool b]
  | date s => text "Date" s
  | time s => text "Time" s
  | dateTime s => text "DateTime" s
  | timestamp s => text "Timestamp" s
where
  /-- A variant that carries a text. -/
  text (name s : String) : Dump :=
    .variant name [.word (Text.quoted s)]

end SqlTree
