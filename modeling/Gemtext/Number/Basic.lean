/-!
# Powers and totals

The few operations on natural numbers that the library needs beyond the elementary ones.
-/

namespace Gemtext

/-- A power of two. -/
def twoTo (n : Nat) : Nat :=
  Nat.pow 2 n

/-- A power of ten. -/
def tenTo (n : Nat) : Nat :=
  Nat.pow 10 n

/-- The sum of natural numbers. -/
def total : List Nat → Nat
  | [] => 0
  | n :: ns => n + total ns

end Gemtext
