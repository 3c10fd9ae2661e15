import Launcher.Text.Blank
import Launcher.Text.Lowercase

namespace Launcher

/-!
# Currencies

* `Currency` — a code, a symbol, a number of places and further names.
* `Currency.table` — every currency that can be named, in the order in which names are looked up.
* `Currency.lookup?` — the currency that a code or a name stands for.
-/

/-- A currency. -/
structure Currency where
  code : String
  /-- What is written before an amount, with the blank that separates it where there is one. -/
  symbol : String
  places : Nat
  /-- Further names, in lower case. -/
  aliases : List String
deriving Repr, DecidableEq

namespace Currency

/-- The currencies. -/
def table : List Currency := [
  ⟨"USD", "$", 2, ["dollar", "dollars", "usdollar"]⟩,
  ⟨"EUR", "€", 2, ["euro", "euros"]⟩,
  ⟨"GBP", "£", 2, ["pound sterling", "sterling", "quid"]⟩,
  ⟨"JPY", "¥", 0, ["yen"]⟩,
  ⟨"CNY", "CN¥", 2, ["yuan", "rmb", "renminbi"]⟩,
  ⟨"INR", "₹", 2, ["rupee", "rupees"]⟩,
  ⟨"KRW", "₩", 0, ["won"]⟩,
  ⟨"RUB", "₽", 2, ["ruble", "rubles", "rouble", "roubles"]⟩,
  ⟨"BRL", "R$", 2, ["real", "reais"]⟩,
  ⟨"CAD", "CA$", 2, []⟩,
  ⟨"AUD", "A$", 2, []⟩,
  ⟨"NZD", "NZ$", 2, []⟩,
  ⟨"CHF", "CHF ", 2, ["franc", "francs"]⟩,
  ⟨"SEK", "SEK ", 2, []⟩,
  ⟨"NOK", "NOK ", 2, []⟩,
  ⟨"DKK", "DKK ", 2, []⟩,
  ⟨"PLN", "zł", 2, ["zloty"]⟩,
  ⟨"CZK", "Kč", 2, ["koruna"]⟩,
  ⟨"HUF", "Ft", 0, ["forint"]⟩,
  ⟨"TRY", "₺", 2, ["lira"]⟩,
  ⟨"MXN", "MX$", 2, ["peso", "pesos"]⟩,
  ⟨"HKD", "HK$", 2, []⟩,
  ⟨"SGD", "S$", 2, []⟩,
  ⟨"TWD", "NT$", 0, []⟩,
  ⟨"THB", "฿", 2, ["baht"]⟩,
  ⟨"ILS", "₪", 2, ["shekel", "shekels"]⟩,
  ⟨"ZAR", "R", 2, ["rand"]⟩,
  ⟨"AED", "AED ", 2, ["dirham", "dirhams"]⟩,
  ⟨"SAR", "SAR ", 2, ["riyal", "riyals"]⟩,
  ⟨"UAH", "₴", 2, ["hryvnia"]⟩,
  ⟨"VND", "₫", 0, ["dong"]⟩,
  ⟨"IDR", "Rp", 0, ["rupiah"]⟩,
  ⟨"PHP", "₱", 2, []⟩,
  ⟨"MYR", "RM", 2, ["ringgit"]⟩]

/-- The first currency whose code or alias a name is, without regard to case and surrounding
blanks. -/
def lookup? (name : String) : Option Currency :=
  let key := String.ofList (Text.lowercase (Text.trim name.toList))
  if key.isEmpty then none
  else table.find? fun currency =>
    Text.equalIgnoringCase currency.code key || currency.aliases.contains key

end Currency

end Launcher
