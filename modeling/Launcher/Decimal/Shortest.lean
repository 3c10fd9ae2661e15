import Launcher.Decimal.Binary64
import Launcher.Decimal.Digits

namespace Launcher.Decimal

/-!
# The shortest decimal that reads back

* `Interval` — the values that round to a given double.
* `Dyadic.shortest` — the decimal of fewest digits in that interval, and of those the nearest one.
* `plain` — a double as its shortest decimal in positional notation.
* `scientific?` — a double as its shortest decimal, positional for moderate exponents, with a point
  in every number.
-/

/-- Which of two equally near decimals is taken. -/
inductive Tie where
  | up
  | even
deriving Repr, DecidableEq

/-- The values that round to a double, in quarters of a unit in its last place. -/
structure Interval where
  low : Nat
  value : Nat
  high : Nat
  /-- The ends themselves round to the double. -/
  closed : Bool
deriving Repr, DecidableEq

/-- The interval of a magnitude: half a unit to each side, and a quarter downwards where the
magnitude is the least of its binary exponent. -/
def Dyadic.interval (d : Dyadic) : Interval :=
  let m := d.significand
  { low := if m = leadingBit ∧ d.exponent ≠ -1074 then 4 * m - 1 else 4 * m - 2
    value := 4 * m
    high := 4 * m + 2
    closed := m % 2 == 0 }

/-- A decimal `coefficient * 10 ^ exponent`. -/
structure Numeral where
  coefficient : Nat
  exponent : Int
deriving Repr, DecidableEq

/-- The part `num / den` of a power of ten or two, according to the sign of its exponent. -/
def powerRatio (base : Nat) (e : Int) : Nat × Nat :=
  (Nat.pow base e.toNat, Nat.pow base (-e).toNat)

/-- The decimal of the grid of step `10 ^ step` in the interval of `d` that is nearest to `d`. -/
def Dyadic.onGrid? (tie : Tie) (d : Dyadic) (step : Int) : Option Numeral :=
  let i := d.interval
  -- one grid step is `unit` of the parts in which `value` is `scale` times as large
  let (p2, q2) := powerRatio 2 (d.exponent - 2)
  let (p10, q10) := powerRatio 10 step
  let scale := p2 * q10
  let unit := p10 * q2
  let inside := fun n =>
    if i.closed then i.low * scale ≤ n * unit ∧ n * unit ≤ i.high * scale
    else i.low * scale < n * unit ∧ n * unit < i.high * scale
  let below := i.value * scale / unit
  let above := below + 1
  let down := i.value * scale - below * unit
  let up := above * unit - i.value * scale
  match decide (0 < below ∧ inside below), decide (inside above) with
  | false, false => none
  | true, false => some ⟨below, step⟩
  | false, true => some ⟨above, step⟩
  | true, true =>
    let takeAbove := up < down || (up == down && (tie == .up || below % 2 == 1))
    some ⟨if takeAbove then above else below, step⟩

/-- An upper bound of the decimal exponent of a magnitude. -/
def Dyadic.decimalSize (d : Dyadic) : Int :=
  let bits : Int := d.significand.log2 + d.exponent
  bits * 30103 / 100000 + 1

/-- The decimal of fewest digits that rounds to `d`, for a magnitude that is not zero. -/
def Dyadic.shortest (tie : Tie) (d : Dyadic) : Numeral :=
  let top := d.decimalSize
  let found := (List.range 20).findSome? fun (n : Nat) => d.onGrid? tie (top - n)
  found.getD ⟨d.significand, 0⟩

/-- A decimal without zeros at the end of its digits. -/
def Numeral.normalize (x : Numeral) : Numeral :=
  go x (digitCount x.coefficient)
where
  /-- Moves up to `fuel` zeros into the exponent. -/
  go (x : Numeral) : (fuel : Nat) → Numeral
    | 0 => x
    | fuel + 1 =>
      if x.coefficient % 10 = 0 ∧ x.coefficient ≠ 0 then
        go ⟨x.coefficient / 10, x.exponent + 1⟩ fuel
      else x

/-! ### Texts -/

/-- A decimal in positional notation, without a point if it is whole. -/
def Numeral.positional (x : Numeral) : List Char :=
  let ds := digits x.coefficient
  if 0 ≤ x.exponent then ds ++ List.replicate x.exponent.toNat '0'
  else
    let places := (-x.exponent).toNat
    if places < ds.length then
      ds.take (ds.length - places) ++ '.' :: ds.drop (ds.length - places)
    else '0' :: '.' :: List.replicate (places - ds.length) '0' ++ ds

/-- The sign of a dyadic value before a text. -/
def Dyadic.signed (d : Dyadic) (text : List Char) : List Char :=
  if d.negative then '-' :: text else text

/-- A double as its shortest decimal in positional notation; of two equally near decimals the
larger. -/
def plain (x : Float) : List Char :=
  match Magnitude.ofFloat x with
  | .notANumber => "NaN".toList
  | .infinite negative => (if negative then "-inf" else "inf").toList
  | .finite d =>
    d.signed (if d.significand = 0 then ['0'] else (d.shortest .up).normalize.positional)

/-- A decimal with a point or an exponent: positional if its first digit stands at `10 ^ -5` to
`10 ^ 15`, otherwise with one digit before the point. -/
def Numeral.pointed (x : Numeral) : List Char :=
  let ds := digits x.coefficient
  let point := ds.length + x.exponent
  if -5 < point ∧ point ≤ 16 then
    if 0 ≤ x.exponent then x.positional ++ ['.', '0'] else x.positional
  else
    let exponent := point - 1
    let mantissa := match ds with
      | first :: second :: rest => first :: '.' :: second :: rest
      | ds => ds
    mantissa ++ 'e' :: (if exponent < 0 then '-' else '+') ::
      digits exponent.natAbs

/-- A finite double as its shortest decimal with a point or an exponent; of two equally near
decimals the even one. -/
def scientific? (x : Float) : Option (List Char) :=
  match Magnitude.ofFloat x with
  | .finite d =>
    some (d.signed
      (if d.significand = 0 then "0.0".toList else (d.shortest .even).normalize.pointed))
  | _ => none

end Launcher.Decimal
