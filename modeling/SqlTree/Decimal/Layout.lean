import SqlTree.Decimal.Shortest

/-!
# Writing and reading doubles

A double is written with the digits of its shortest decimal. Where the point goes is a choice
of the format, kept in a `Layout`: the powers of ten within a window are written positionally
with at least one decimal, all others with an exponent. Each format has a layout of its own.

* `Layout.write` writes a double in a layout.
* `readDouble?` reads a decimal numeral, with or without an exponent, and the names of the
  numbers that have no digits.
-/

set_option autoImplicit false

namespace SqlTree.Decimal

/-- What a double is, read off its bits. -/
inductive Reading where
  | notANumber
  | infinite (negative : Bool)
  | zero (negative : Bool)
  | finite (negative : Bool) (magnitude : Binary)

/-- The parts of a double: sign, exponent field and fraction. Numbers with an empty exponent
field have no hidden bit. -/
def Reading.ofFloat (x : Float) : Reading :=
  let bits := x.toBits.toNat
  let negative := bits / Nat.pow 2 63 == 1
  let field : Nat := bits / Nat.pow 2 52 % Nat.pow 2 11
  let fraction : Nat := bits % Nat.pow 2 52
  if field = 2047 then
    if fraction = 0 then .infinite negative else .notANumber
  else if field = 0 then
    if fraction = 0 then .zero negative else .finite negative ⟨fraction, -1074, false⟩
  else .finite negative ⟨Nat.pow 2 52 + fraction, (field : Int) - 1075, fraction == 0 && field != 1⟩

/-- How the numbers of a format are written. The window gives the least and the greatest power
of ten of the leading digit for which a number is written positionally. -/
structure Layout where
  least : Int
  greatest : Int
  /-- Whether an exponent that is not negative has a sign, too. -/
  plus : Bool

namespace Layout

/-- Digits with a point, and at least one decimal. -/
def point (ds : List Char) (exponent : Int) : List Char :=
  if 0 ≤ exponent then ds ++ List.replicate exponent.toNat '0' ++ ['.', '0']
  else
    let places := (-exponent).toNat
    if places < ds.length then ds.take (ds.length - places) ++ '.' :: ds.drop (ds.length - places)
    else ['0', '.'] ++ List.replicate (places - ds.length) '0' ++ ds

/-- Digits with the point after the first of them, and the power of ten of that first one. -/
def scientific (l : Layout) (ds : List Char) (power : Int) : List Char :=
  let rest := ds.drop 1
  let sign := if l.plus ∧ 0 ≤ power then ['+'] else []
  ds.take 1 ++ (if rest.isEmpty then [] else '.' :: rest) ++ 'e' :: sign ++ (toString power).toList

/-- A numeral in this layout. -/
def writeNumeral (l : Layout) (n : Numeral) : List Char :=
  let ds := Nat.toDigits 10 n.digits
  let power := n.exponent + ds.length - 1
  if l.least ≤ power ∧ power ≤ l.greatest then point ds n.exponent else l.scientific ds power

/-- A double in this layout. The sign of zero is kept. -/
def write (l : Layout) (x : Float) : String :=
  let signed (negative : Bool) (cs : List Char) : String :=
    String.ofList (if negative then '-' :: cs else cs)
  match Reading.ofFloat x with
  | .notANumber => "NaN"
  | .infinite negative => signed negative "inf".toList
  | .zero negative => signed negative "0.0".toList
  | .finite negative b => signed negative (l.writeNumeral b.shortest)

end Layout

/-- The double nearest to a numeral. Numerals far outside the range of doubles are settled
without computing their power of ten. -/
def Numeral.toFloat (n : Numeral) : Float :=
  let power := n.exponent + (Nat.toDigits 10 n.digits).length
  if n.digits = 0 ∨ power < -400 then 0
  else if 400 < power then 1 / 0
  else Float.ofScientific n.digits (n.exponent < 0) n.exponent.natAbs

/-- The number that a list of decimal digits stands for. -/
def digitsValue (ds : List Char) : Nat :=
  ds.foldl (fun n c => 10 * n + (c.toNat - '0'.toNat)) 0

/-- The exponent part of a numeral: nothing, or a letter, a sign and digits. -/
def readExponent? : List Char → Option Int
  | [] => some 0
  | e :: cs =>
    let digits? (ds : List Char) : Option Int :=
      if ds.isEmpty || !ds.all Char.isDigit then none else some (digitsValue ds)
    if e = 'e' ∨ e = 'E' then
      match cs with
      | '-' :: ds => (digits? ds).map (-·)
      | '+' :: ds => digits? ds
      | ds => digits? ds
    else none

/-- A numeral without a sign: digits, a point somewhere among them or not, and an optional
exponent. At least one digit stands before the exponent. -/
def readNumeral? (cs : List Char) : Option Numeral :=
  let (whole, rest) := cs.span Char.isDigit
  let (decimals, rest) := match rest with
    | '.' :: rest => rest.span Char.isDigit
    | rest => ([], rest)
  if whole.isEmpty && decimals.isEmpty then none
  else (readExponent? rest).map fun e => ⟨digitsValue (whole ++ decimals), e - decimals.length⟩

/-- Reads a double: a numeral or one of the names `nan`, `inf` and `infinity` in any case,
each after an optional sign. -/
def readDouble? (s : String) : Option Float :=
  let magnitude? (cs : List Char) : Option Float :=
    let word := String.ofList (cs.map Char.toLower)
    if word = "nan" then some (0 / 0)
    else if word = "inf" ∨ word = "infinity" then some (1 / 0)
    else (readNumeral? cs).map Numeral.toFloat
  match s.toList with
  | '-' :: cs => (magnitude? cs).map (-·)
  | '+' :: cs => magnitude? cs
  | cs => magnitude? cs

end SqlTree.Decimal
