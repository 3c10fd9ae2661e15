import Launcher.Text.Ascii

namespace Launcher.Decimal

/-!
# Decimal digits of natural numbers

* `digits` — the digits of a number, without leading zeros, `0` for zero.
* `paddedDigits` — the digits with leading zeros up to a width.
* `ofDigits` — the number that a run of digits denotes.
* `readNat?` — the number written by a non-empty run of digits.
-/

/-- The decimal digits of a number, without leading zeros. -/
def digits (n : Nat) : List Char :=
  if n < 10 then [Text.digitChar n] else digits (n / 10) ++ [Text.digitChar (n % 10)]

/-- The decimal digits of a number, with leading zeros up to `width` digits. -/
def paddedDigits (width n : Nat) : List Char :=
  let ds := digits n
  List.replicate (width - ds.length) '0' ++ ds

/-- The number that a run of digits denotes. -/
def ofDigits (ds : List Char) : Nat :=
  ds.foldl (fun n c => n * 10 + Text.digitValue c) 0

/-- The number written by a non-empty run of digits. -/
def readNat? (s : List Char) : Option Nat :=
  if s.isEmpty || !s.all Text.isDigit then none else some (ofDigits s)

/-- The number of decimal digits of a number. -/
def digitCount (n : Nat) : Nat :=
  (digits n).length

example : digits 1090 = ['1', '0', '9', '0'] ∧ ofDigits ['0', '1', '7'] = 17 := by decide +kernel

end Launcher.Decimal
