/-!
# The shortest decimal of a binary number

A binary floating-point number stands for a whole interval of reals: all that round to it. Its
*shortest decimal* is the point of that interval on the coarsest decimal grid that meets the
interval at all, and the nearest such point where there are two. Everything is computed in
exact integer arithmetic.

* `Binary` is a positive number `mantissa · 2 ^ exponent`.
* `Binary.onGrid` finds the point of one decimal grid, `Binary.shortest` the coarsest grid
  that has one.
-/

set_option autoImplicit false

namespace SqlTree.Decimal

/-- A decimal numeral, `digits · 10 ^ exponent`. -/
structure Numeral where
  digits : Nat
  exponent : Int
  deriving DecidableEq

/-- A positive binary number, `mantissa · 2 ^ exponent`. At the bottom of a binade the next
number below is only half as far away as the next above, which `closeBelow` records. -/
structure Binary where
  mantissa : Nat
  exponent : Int
  closeBelow : Bool
  deriving DecidableEq

namespace Binary

/-- The point of the grid of multiples of `10 ^ i` that rounds to `b`, if there is one: of the
two multiples around `b` the nearer, and the upper one when both are equally near. The ends of
the interval belong to it exactly when the mantissa is even.

All numbers are compared as multiples of a quarter of the last binary place, after both sides
have been cleared of negative powers. -/
def onGrid (b : Binary) (i : Int) : Option Nat :=
  let place := Nat.pow 2 (b.exponent - 2).toNat * Nat.pow 10 (-i).toNat
  let step := Nat.pow 2 (2 - b.exponent).toNat * Nat.pow 10 i.toNat
  let value := 4 * b.mantissa * place
  let low := (4 * b.mantissa - if b.closeBelow then 1 else 2) * place
  let high := (4 * b.mantissa + 2) * place
  let inside (n : Nat) : Bool :=
    if b.mantissa % 2 = 0 then low ≤ n * step && n * step ≤ high
    else low < n * step && n * step < high
  let n := value / step
  if inside n && inside (n + 1) then
    some (if value - n * step < (n + 1) * step - value then n else n + 1)
  else if inside n then some n
  else if inside (n + 1) then some (n + 1)
  else none

/-- All the digits of the number. -/
def exact (b : Binary) : Numeral :=
  if 0 ≤ b.exponent then ⟨b.mantissa * Nat.pow 2 b.exponent.toNat, 0⟩
  else ⟨b.mantissa * Nat.pow 5 (-b.exponent).toNat, b.exponent⟩

/-- The coarsest grid that is tried: no double reaches `10 ^ 309`. -/
def coarsest : Int := 309

/-- How many grids are tried; the last one is finer than the interval of the least double. -/
def gridCount : Nat := 634

/-- The shortest decimal that rounds to `b`. -/
def shortest (b : Binary) : Numeral :=
  let hit := (List.range gridCount).findSome? fun j : Nat =>
    let i := coarsest - j
    (b.onGrid i).map fun n => Numeral.mk n i
  hit.getD b.exact

end Binary

end SqlTree.Decimal
