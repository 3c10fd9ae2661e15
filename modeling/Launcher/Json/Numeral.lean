import Launcher.Json.Value

namespace Launcher.Json

/-!
# JSON numbers

* `Numeral` — the parts of a number as it is written.
* `Numeral.value?` — a whole number that fits sixty-four bits as it is, any other number as a
  double; nothing if it is too large for a double.

A double is read quickly rather than exactly: the digits that fit sixty-four bits are scaled by one
power of ten, so that the last bit may differ from that of the nearest double.
-/

/-- The parts of a number as it is written. -/
structure Numeral where
  negative : Bool
  whole : List Char
  /-- The digits after the point, if there is one. -/
  fraction : Option (List Char)
  /-- The sign of the exponent and its digits, if there is one. -/
  exponent : Option (Bool × List Char)
deriving Repr, DecidableEq

/-- The largest power of ten by which a number is scaled at once. -/
def scaleLimit : Nat := 308

/-- The double `10 ^ n`, for an `n` up to `scaleLimit`. -/
def powerOfTen (n : Nat) : Float :=
  Decimal.ofRatio false (Nat.pow 10 n) 1

/-- A number times `10 ^ exponent`; nothing if that is infinite. Small numbers are scaled in at most
`fuel` rounds, after which nothing is left of them. -/
def scaleBy? (x : Float) (exponent : Int) : (fuel : Nat) → Option Float
  | 0 => some x
  | fuel + 1 =>
    if exponent.natAbs ≤ scaleLimit then
      if 0 ≤ exponent then
        let y := x * powerOfTen exponent.natAbs
        if y.isInf then none else some y
      else some (x / powerOfTen exponent.natAbs)
    else if x == 0.0 then some x
    else if 0 ≤ exponent then none
    else scaleBy? (x / powerOfTen scaleLimit) (exponent + scaleLimit) fuel

/-- A significand below `2 ^ 64` times `10 ^ exponent`, with a sign. -/
def ofParts? (negative : Bool) (significand : Nat) (exponent : Int) : Option Float :=
  (scaleBy? (Decimal.ofRatio false significand 1) exponent 8).map fun x =>
    if negative then -x else x

/-- Takes digits into a significand as long as it stays below `2 ^ 64`; the answer holds it and the
digits that are left. -/
def takeDigits (significand : Nat) : List Char → Nat × List Char
  | [] => (significand, [])
  | c :: ds =>
    let next := significand * 10 + Text.digitValue c
    if next < UInt64.size then takeDigits next ds else (significand, c :: ds)

/-- The double of a numeral. Digits of the whole part that do not fit count only as zeros, and those
after the point that do not fit are dropped. -/
def Numeral.float? (n : Numeral) : Option Float :=
  let (whole, excess) := takeDigits 0 n.whole
  let fraction := n.fraction.getD []
  let (significand, dropped) := takeDigits whole fraction
  let shift : Int := (excess.length : Int) - (fraction.length - dropped.length : Nat)
  match n.exponent with
  | none => ofParts? n.negative significand shift
  | some (below, ds) =>
    let size := Decimal.ofDigits ds
    if 1 <<< 31 ≤ size then
      if significand ≠ 0 ∧ !below then none else some (if n.negative then -0.0 else 0.0)
    else ofParts? n.negative significand (if below then shift - size else shift + size)

/-- The value of a numeral. -/
def Numeral.value? (n : Numeral) : Option Value :=
  let size := Decimal.ofDigits n.whole
  let isWhole := n.fraction.isNone && n.exponent.isNone
  if isWhole && !n.negative && size < UInt64.size then some (.int size)
  else if isWhole && n.negative && 0 < size && size ≤ 1 <<< 63 then some (.int (-size))
  else n.float?.map .float

end Launcher.Json
