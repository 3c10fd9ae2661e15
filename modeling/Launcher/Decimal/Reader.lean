import Launcher.Decimal.Binary64
import Launcher.Decimal.Digits
import Launcher.Text.Split

namespace Launcher.Decimal

/-!
# Reading doubles

* `ofScientific` — the double next to `digits * 10 ^ exponent`.
* `readUnsigned?` — digits with at most one point among them, and an exponent.
* `readFloat?` — the same with a sign, or one of the words for infinity and not-a-number.
-/

/-- The double next to `± n * 10 ^ exponent`. An exponent that leads out of the range of doubles is
cut before any power is computed. -/
def ofScientific (negative : Bool) (n : Nat) (exponent : Int) : Float :=
  let size : Int := digitCount n + exponent
  if n = 0 ∨ size < -340 then ofRatio negative 0 1
  else if 400 < size then ofRatio negative (1 <<< 1100) 1
  else ofRatio negative (n * Nat.pow 10 exponent.toNat) (Nat.pow 10 (-exponent).toNat)

/-- A run of digits at the beginning, and what follows it. -/
def spanDigits (s : List Char) : List Char × List Char :=
  (s.takeWhile Text.isDigit, s.dropWhile Text.isDigit)

/-- An exponent after its letter: a sign and digits up to the end. -/
def readExponent? (s : List Char) : Option Int :=
  match s with
  | '+' :: ds => (readNat? ds).map fun n => (n : Int)
  | '-' :: ds => (readNat? ds).map fun n => -(n : Int)
  | ds => (readNat? ds).map fun n => (n : Int)

/-- A number without a sign: digits with at most one point and at least one digit, then an exponent
or nothing. -/
def readUnsigned? (negative : Bool) (s : List Char) : Option Float :=
  let (whole, rest) := spanDigits s
  let (fraction, rest) := match rest with
    | '.' :: rest => spanDigits rest
    | rest => ([], rest)
  if whole.isEmpty && fraction.isEmpty then none else
    let exponent? := match rest with
      | [] => some 0
      | c :: rest => if c == 'e' || c == 'E' then readExponent? rest else none
    exponent?.map fun exponent =>
      ofScientific negative (ofDigits (whole ++ fraction)) (exponent - fraction.length)

/-- A double: a sign, then a number or, in any case of letters, `inf`, `infinity` or `nan`. -/
def readFloat? (s : List Char) : Option Float :=
  let (negative, body) := match s with
    | '-' :: rest => (true, rest)
    | '+' :: rest => (false, rest)
    | s => (false, s)
  let word := Text.lower body
  if word = "inf".toList ∨ word = "infinity".toList then
    some (if negative then -1.0 / 0.0 else 1.0 / 0.0)
  else if word = "nan".toList then some (0.0 / 0.0)
  else readUnsigned? negative body

/-- A whole number with an optional plus sign, below `2 ^ bits`. -/
def readWord? (bits : Nat) (s : List Char) : Option Nat :=
  let ds := match s with
    | '+' :: rest => rest
    | s => s
  (readNat? ds).filter (· < 1 <<< bits)

end Launcher.Decimal
