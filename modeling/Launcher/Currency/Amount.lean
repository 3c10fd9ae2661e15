import Launcher.Currency.Table
import Launcher.Decimal.Fixed

namespace Launcher.Currency

/-!
# Amounts of money as text

* `grouped` — the digits of a whole number with a comma before every third one from the right.
* `formatAmount` — sign, symbol and grouped digits of an amount.
-/

/-- The text with a comma before every place that a multiple of three characters follows. -/
def grouped : List Char → List Char
  | [] => []
  | [c] => [c]
  | c :: rest => if rest.length % 3 = 0 then c :: ',' :: grouped rest else c :: grouped rest

/-- Some digit of the text is not zero. -/
def hasNonzeroDigit (s : List Char) : Bool :=
  s.any fun c => Text.isDigit c && c != '0'

/-- What is written before an amount and how many places it has; an unknown code stands for itself
and has two places. -/
def style (code : String) : String × Nat :=
  match lookup? code with
  | some currency => (currency.symbol, currency.places)
  | none => (Text.uppered code ++ " ", 2)

/-- An amount in a currency. The sign is written only if some digit is not zero. -/
def formatAmount (amount : Float) (code : String) : String :=
  let (symbol, places) := style code
  let fixed := Decimal.fixed places amount.abs
  let whole := fixed.takeWhile (· != '.')
  let fraction := fixed.dropWhile (· != '.')
  let sign := if amount < 0.0 && hasNonzeroDigit fixed then ['-'] else []
  String.ofList (sign ++ symbol.toList ++ grouped whole ++ fraction)

example : grouped "1234567".toList = "1,234,567".toList := by decide +kernel

end Launcher.Currency
