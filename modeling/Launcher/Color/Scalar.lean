import Launcher.Decimal.Binary64

namespace Launcher.Color

/-!
# The numbers that color formulas compute with

* `Scalar` — the operations that the formulas need.
* The instances for doubles, with which colors are computed, and for exact fractions, with which the
  formulas are reasoned about.
-/

/-- Numbers with the operations of the color formulas. -/
class Scalar (α : Type) extends Add α, Sub α, Mul α, Div α where
  ofNat : Nat → α
  lt : α → α → Bool
  eq : α → α → Bool
  abs : α → α
  /-- The remainder that is not negative. -/
  modulo : α → α → α
  /-- The whole number below a number that is not negative. -/
  floor : α → Nat
  /-- The whole number next to a number that is not negative, a half going up. -/
  round : α → Nat

instance : Scalar Float where
  ofNat n := n.toFloat
  lt x y := x < y
  eq x y := x == y
  abs x := x.abs
  modulo := Decimal.euclideanRemainder
  floor x := x.toUInt32.toNat
  round x := x.round.toUInt32.toNat

instance : Scalar Rat where
  ofNat n := n
  lt x y := x < y
  eq x y := x == y
  abs x := if x < 0 then -x else x
  modulo x y := x - y * (x / y).floor
  floor x := x.floor.toNat
  round x := (x + 1 / 2).floor.toNat

namespace Scalar

variable {α : Type} [Scalar α]

/-- The larger of two numbers. -/
def max (x y : α) : α :=
  if lt x y then y else x

/-- The smaller of two numbers. -/
def min (x y : α) : α :=
  if lt y x then y else x

/-- The nearest number between zero and one. -/
def clamp (x : α) : α :=
  if lt x (ofNat 0) then ofNat 0 else if lt (ofNat 1) x then ofNat 1 else x

end Scalar

end Launcher.Color
