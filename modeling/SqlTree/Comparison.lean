/-!
# Comparing values

Which values of a list are equal to which, by the equality of their type. That equality need not
be reflexive: a double that is not a number differs from itself.
-/

set_option autoImplicit false

namespace SqlTree

/-- For each value a row of ones and zeros: which of the values it equals. -/
def equalityTable {α : Type} [BEq α] (xs : List α) : List String :=
  xs.map fun x => String.ofList (xs.map fun y => if x == y then '1' else '0')

/-- The number of different values. -/
def distinctCount {α : Type} [BEq α] (xs : List α) : Nat :=
  xs.eraseDups.length

end SqlTree
