import Launcher.Decimal.Binary64
import Launcher.Decimal.Digits

namespace Launcher.Decimal

/-!
# Doubles in fixed notation

* `roundDiv` — the whole number next to a quotient, a tie going to the even one.
* `scaled` — a dyadic magnitude in units of a power of a tenth, rounded.
* `fixed` — a double with a given number of places, rounded exactly.
-/

/-- The whole number next to `num / den`, a tie going to the even one. -/
def roundDiv (num den : Nat) : Nat :=
  let q := num / den
  let twice := 2 * (num % den)
  if twice > den ∨ (twice = den ∧ q % 2 = 1) then q + 1 else q

example : roundDiv 5 2 = 2 ∧ roundDiv 7 2 = 4 ∧ roundDiv 8 3 = 3 := by decide

/-- A magnitude in units of `10 ^ -places`, rounded. -/
def Dyadic.scaled (places : Nat) (d : Dyadic) : Nat :=
  roundDiv ((d.significand * Nat.pow 10 places) <<< d.exponent.toNat) (1 <<< (-d.exponent).toNat)

/-- The text of `n` units of `10 ^ -places`. -/
def fixedNat (places n : Nat) : List Char :=
  let whole := digits (n / Nat.pow 10 places)
  if places = 0 then whole else whole ++ '.' :: paddedDigits places (n % Nat.pow 10 places)

/-- The text of a dyadic value with a number of places; a negative value keeps its sign even where
only zeros are left of it. -/
def Dyadic.fixed (places : Nat) (d : Dyadic) : List Char :=
  (if d.negative then ['-'] else []) ++ fixedNat places (d.scaled places)

/-- The text of a double with a number of places. -/
def fixed (places : Nat) (x : Float) : List Char :=
  match Magnitude.ofFloat x with
  | .notANumber => "NaN".toList
  | .infinite negative => (if negative then "-inf" else "inf").toList
  | .finite d => d.fixed places

end Launcher.Decimal
