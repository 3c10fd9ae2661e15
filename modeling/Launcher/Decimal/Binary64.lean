namespace Launcher.Decimal

/-!
# The exact value of a double

* `Dyadic` — a sign and an exact magnitude `significand * 2 ^ exponent`.
* `Magnitude.ofFloat` — a double is not a number, infinite, or a dyadic value.
* `ofDyadic` — the double next to a dyadic value, a tie going to the even significand.
* `isFinite`, `isIntegral` — tests on the value.
* `remainder`, `euclideanRemainder` — the exact remainder of a division.
-/

/-- A sign and an exact magnitude `significand * 2 ^ exponent`. -/
structure Dyadic where
  negative : Bool
  significand : Nat
  exponent : Int
deriving Repr, DecidableEq

/-- What a double stands for. -/
inductive Magnitude where
  | notANumber
  | infinite (negative : Bool)
  | finite (value : Dyadic)
deriving Repr, DecidableEq

/-- The bit that is set in the word of a negative double. -/
def signBit : Nat := 1 <<< 63

/-- The leading bit of a significand of fifty-three bits, which the word of a double leaves out. -/
def leadingBit : Nat := 1 <<< 52

/-- Reads a double off its bits: a sign, eleven bits of exponent and fifty-two of significand. -/
def Magnitude.ofBits (bits : Nat) : Magnitude :=
  let negative := bits / signBit % 2 == 1
  let exponent : Nat := bits / leadingBit % 2048
  let fraction : Nat := bits % leadingBit
  if exponent = 2047 then if fraction = 0 then .infinite negative else .notANumber
  else if exponent = 0 then .finite ⟨negative, fraction, -1074⟩
  else .finite ⟨negative, leadingBit + fraction, (exponent : Int) - 1075⟩

/-- What a double stands for. -/
def Magnitude.ofFloat (x : Float) : Magnitude :=
  .ofBits x.toBits.toNat

/-! ### Tests -/

/-- The double is a number and not infinite. -/
def isFinite (x : Float) : Bool :=
  match Magnitude.ofFloat x with
  | .finite _ => true
  | _ => false

/-- The magnitude is a whole number. -/
def Dyadic.isIntegral (d : Dyadic) : Bool :=
  0 ≤ d.exponent || d.significand % (1 <<< (-d.exponent).toNat) == 0

/-- The double is a whole number. -/
def isIntegral (x : Float) : Bool :=
  match Magnitude.ofFloat x with
  | .finite d => d.isIntegral
  | _ => false

/-! ### From exact values to doubles -/

/-- The bits of the double next to `m / n`, a tie going to the even significand: `m / n` is cut to a
whole number of units in the last place, which is `2 ^ -1074` or keeps fifty-three bits. -/
def bitsOfRatio (negative : Bool) (m n : Nat) : Nat :=
  let sign := if negative then signBit else 0
  if m = 0 ∨ n = 0 then sign else
    let size : Int := (m.log2 : Int) - n.log2
    -- the binary exponent of the value is `size` or `size - 1`
    let top := if m <<< (-size).toNat < n <<< size.toNat then size - 1 else size
    let unit := max (top - 52) (-1074)
    let num := m <<< (-unit).toNat
    let den := n <<< unit.toNat
    let q := num / den
    let twice := 2 * (num % den)
    let q := if twice > den ∨ (twice = den ∧ q % 2 = 1) then q + 1 else q
    -- a significand without its leading bit is subnormal; a carry moves into the exponent by itself
    let raw := if q < leadingBit then q else (unit + 1074).toNat * leadingBit + q
    sign + min raw (2047 * leadingBit)

/-- The double next to `m / n`. -/
def ofRatio (negative : Bool) (m n : Nat) : Float :=
  Float.ofBits (UInt64.ofNat (bitsOfRatio negative m n))

/-- The double next to a dyadic value. -/
def ofDyadic (d : Dyadic) : Float :=
  ofRatio d.negative (d.significand <<< d.exponent.toNat) (1 <<< (-d.exponent).toNat)

/-! ### Remainders -/

/-- What is left of `x` after taking away the largest whole multiple of `y` towards zero; it has the
sign of `x`. -/
def Dyadic.remainder (x y : Dyadic) : Dyadic :=
  let exponent := min x.exponent y.exponent
  let m := x.significand <<< (x.exponent - exponent).toNat
  let n := y.significand <<< (y.exponent - exponent).toNat
  ⟨x.negative, m % n, exponent⟩

/-- The remainder of a division towards zero; not a number for an infinite `x` or a zero `y`. -/
def remainder (x y : Float) : Float :=
  match Magnitude.ofFloat x, Magnitude.ofFloat y with
  | .finite m, .finite n =>
    if n.significand = 0 then 0.0 / 0.0 else ofDyadic (m.remainder n)
  | .finite _, .infinite _ => x
  | _, _ => 0.0 / 0.0

/-- The remainder that is not negative, for a divisor that is a number. -/
def euclideanRemainder (x y : Float) : Float :=
  let r := remainder x y
  if r < 0.0 then r + y.abs else r

end Launcher.Decimal
