import SqlTree.Dump
import SqlTree.Text.Quoted

/-!
# Data types

The types of columns and casts. A type is written in upper case, with its sizes in parentheses
and a pair of brackets for each level of arrays; a type that the grammar does not know is
written as it was given.
-/

set_option autoImplicit false

namespace SqlTree

/-- A data type. Sizes, precisions and scales are 64-bit numbers. -/
inductive DataType where
  | char (size : Option UInt64)
  | varchar (size : Option UInt64)
  | uuid
  | clob (size : UInt64)
  | binary (size : UInt64)
  | varbinary (size : UInt64)
  | blob (size : UInt64)
  | decimal (precision scale : Option UInt64)
  | float (precision : Option UInt64)
  | smallInt
  | int
  | bigInt
  | real
  | double
  | boolean
  | date
  | time
  | timestamp
  | interval
  | regclass
  | text
  | bytea
  | array (element : DataType)
  | custom (name : String)
  deriving DecidableEq

namespace DataType

/-- A word with one size in parentheses. -/
def sized (word : String) (n : UInt64) : String :=
  word ++ "(" ++ toString n ++ ")"

/-- A word with a size in parentheses, if there is one. -/
def sized? (word : String) : Option UInt64 → String
  | none => word
  | some n => sized word n

/-- The type as it is written in a statement. A scale is only written after a precision. -/
def display : DataType → String
  | char n => sized? "CHAR" n
  | varchar n => sized? "VARCHAR" n
  | uuid => "UUID"
  | clob n => sized "CLOB" n
  | binary n => sized "BINARY" n
  | varbinary n => sized "VARBINARY" n
  | blob n => sized "BLOB" n
  | decimal (some p) (some s) => "DECIMAL(" ++ toString p ++ "," ++ toString s ++ ")"
  | decimal (some p) none => sized "DECIMAL" p
  | decimal none _ => "DECIMAL"
  | float n => sized? "FLOAT" n
  | smallInt => "SMALLINT"
  | int => "INT"
  | bigInt => "BIGINT"
  | real => "REAL"
  | double => "DOUBLE PRECISION"
  | boolean => "BOOLEAN"
  | date => "DATE"
  | time => "TIME"
  | timestamp => "TIMESTAMP"
  | interval => "INTERVAL"
  | regclass => "REGCLASS"
  | text => "TEXT"
  | bytea => "BYTEA"
  | array element => display element ++ "[]"
  | custom name => name

/-- A number. -/
def dumpSize (n : UInt64) : Dump :=
  .word (toString n)

/-- An optional number. -/
def dumpSize? (n : Option UInt64) : Dump :=
  .option (n.map dumpSize)

/-- The type as a variant. -/
def dump : DataType → Dump
  | char n => .variant "Char" [dumpSize? n]
  | varchar n => .variant "Varchar" [dumpSize? n]
  | uuid => .word "Uuid"
  | clob n => .variant "Clob" [dumpSize n]
  | binary n => .variant "Binary" [dumpSize n]
  | varbinary n => .variant "Varbinary" [dumpSize n]
  | blob n => .variant "Blob" [dumpSize n]
  | decimal p s => .record "Decimal" [("precision", dumpSize? p), ("scale", dumpSize? s)]
  | float n => .variant "Float" [dumpSize? n]
  | smallInt => .word "SmallInt"
  | int => .word "Int"
  | bigInt => .word "BigInt"
  | real => .word "Real"
  | double => .word "Double"
  | boolean => .word "Boolean"
  | date => .word "Date"
  | time => .word "Time"
  | timestamp => .word "Timestamp"
  | interval => .word "Interval"
  | regclass => .word "Regclass"
  | text => .word "Text"
  | bytea => .word "Bytea"
  | array element => .variant "Array" [dump element]
  | custom name => .variant "Custom" [.word (Text.quoted name)]

end DataType

end SqlTree
