import SqlTree.Decimal.Layout
import SqlTree.Text.Quoted

/-!
# Plain data and its refusal

A `Datum` is a value of a self-describing data format: null, truth values, numbers, texts,
sequences and maps. Types of the tree that can be stored as plain data are read back from it,
and a datum of the wrong form is refused with a `DatumError` that says what was found and what
was expected.

* `Datum.describe` names a datum in a refusal.
* `DatumError.message` is the wording of every refusal.
-/

set_option autoImplicit false

namespace SqlTree

/-- A value of a self-describing data format. The entries of a map are ordered by key. -/
inductive Datum where
  | null
  | bool (value : Bool)
  | int (value : Int)
  | float (value : Float)
  | text (value : String)
  | sequence (items : List Datum)
  | map (entries : List (String × Datum))
  deriving Inhabited

/-- Numbers in refusals are written positionally from `10 ^ -5` up to, not including, `10 ^ 16`;
the exponents of all others have a sign. -/
def Datum.layout : Decimal.Layout := ⟨-5, 15, true⟩

/-- How a refusal names what it found. Sequences and maps are not shown in full. -/
def Datum.describe : Datum → String
  | null => "null"
  | bool b => "boolean `" ++ (if b then "true" else "false") ++ "`"
  | int n => "integer `" ++ toString n ++ "`"
  | float x => "floating point `" ++ layout.write x ++ "`"
  | text s => "string " ++ Text.quoted s
  | sequence _ => "sequence"
  | map _ => "map"

/-- Why a datum is refused. -/
inductive DatumError where
  /-- The datum has the wrong type altogether. -/
  | wrongType (found : Datum) (expected : String)
  /-- The type is right, the value is not. -/
  | wrongValue (found : Datum) (expected : String)
  /-- A sequence has the wrong number of items. -/
  | wrongLength (found : Nat) (expected : String)
  /-- A record lacks a field. -/
  | missingField (name : String)
  /-- A name is none of the allowed ones. -/
  | unknownVariant (found : String) (allowed : List String)

/-- The wording of a refusal. -/
def DatumError.message : DatumError → String
  | wrongType found expected => "invalid type: " ++ found.describe ++ ", expected " ++ expected
  | wrongValue found expected => "invalid value: " ++ found.describe ++ ", expected " ++ expected
  | wrongLength found expected =>
    "invalid length " ++ toString found ++ ", expected " ++ expected
  | missingField name => "missing field `" ++ name ++ "`"
  | unknownVariant found allowed =>
    "unknown variant `" ++ found ++ "`, expected one of " ++
      ", ".intercalate (allowed.map fun name => "`" ++ name ++ "`")

/-- Reads an unsigned 32-bit number. -/
def Datum.toUInt32 : Datum → Except DatumError UInt32
  | int n =>
    if 0 ≤ n ∧ n < UInt32.size then .ok n.toNat.toUInt32 else .error (.wrongValue (int n) "u32")
  | d => .error (.wrongType d "u32")

end SqlTree
