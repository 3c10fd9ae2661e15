import Launcher.Json.Value
import Launcher.Proofs.Decimal.Digits

namespace Launcher

/-!
# Values on one line

Answers are sent one on a line, so the text of an answer may have no line feed in it.

* `Decimal.lineFeed_not_mem_scientific?` — there is none in the text of a number.
* `Json.lineFeed_not_mem_escapeChar` — in texts, line feeds are escaped.
* `Json.lineFeed_not_mem_chars` — the text of a value without blanks stands on one line.

The last theorem goes over the value, with one case for each way a value is written. A number is
made of digits, a point, a letter and signs, in one of several layouts; none of the layouts is
opened further than to the digits, which are known to be digits. In a text, a line feed is one of
the characters that have a short escape, and the others below the space are written with hexadecimal
digits, so only characters that are no line feed stand for themselves.
-/

/-! ### Numbers -/

namespace Decimal

/-- A line feed is no digit. -/
theorem ne_lineFeed_of_isDigit {c : Char} (h : Text.isDigit c = true) : c ≠ '\n' := by
  rintro rfl
  exact absurd h (by decide)

theorem lineFeed_not_mem_digits (n : Nat) : '\n' ∉ digits n :=
  fun h => ne_lineFeed_of_isDigit (isDigit_of_mem_digits n '\n' h) rfl

/-- There is none in a number without an exponent. -/
theorem lineFeed_not_mem_positional (x : Numeral) : '\n' ∉ x.positional := by
  have hdigits := lineFeed_not_mem_digits x.coefficient
  have htake (k : Nat) : '\n' ∉ (digits x.coefficient).take k :=
    fun h => hdigits (List.mem_of_mem_take h)
  have hdrop (k : Nat) : '\n' ∉ (digits x.coefficient).drop k :=
    fun h => hdigits (List.mem_of_mem_drop h)
  -- The digits are written whole, cut by a point, or with zeros.
  unfold Numeral.positional
  dsimp only
  split
  · simp [hdigits]
  · split
    · simp [htake, hdrop]
    · simp [hdigits]

/-- There is none in a number with a point or an exponent. -/
theorem lineFeed_not_mem_pointed (x : Numeral) : '\n' ∉ x.pointed := by
  have hpositional := lineFeed_not_mem_positional x
  have hcoefficient := lineFeed_not_mem_digits x.coefficient
  unfold Numeral.pointed
  dsimp only
  split
  · split
    · simp [hpositional]
    · exact hpositional
  · -- Only the sign of the exponent matters, and that it is written with digits.
    generalize (digits x.coefficient).length + x.exponent - 1 = exponent
    have hexponent := lineFeed_not_mem_digits exponent.natAbs
    have hsign : '\n' ≠ if exponent < 0 then '-' else '+' := by split <;> decide
    generalize digits x.coefficient = ds at hcoefficient
    match ds, hcoefficient with
    | [], _ => simp [hsign, hexponent]
    | [c], hc => simp_all
    | c :: d :: rest, hrest => simp_all

/-- The text of a finite double stands on one line. -/
theorem lineFeed_not_mem_scientific? {x : Float} {text : List Char} (h : text ∈ scientific? x) :
    '\n' ∉ text := by
  unfold scientific? at h
  split at h
  next d _ =>
    obtain rfl := Option.some.inj h
    -- Before the magnitude there is at most a sign.
    have hmagnitude : '\n' ∉ if d.significand = 0 then "0.0".toList
        else (d.shortest .even).normalize.pointed := by
      split
      · decide
      · exact lineFeed_not_mem_pointed _
    unfold Dyadic.signed
    split
    · intro hmem
      obtain h | h := List.mem_cons.mp hmem
      · exact absurd h (by decide)
      · exact hmagnitude h
    · exact hmagnitude
  next => exact nomatch h

end Decimal

namespace Json

/-- There is none in a whole number. -/
theorem lineFeed_not_mem_intText (n : Int) : '\n' ∉ intText n := by
  have hdigits := Decimal.lineFeed_not_mem_digits n.natAbs
  unfold intText
  split
  · simp [hdigits]
  · exact hdigits

/-- There is none in the text of a double, which is `null` if the double is not finite. -/
theorem lineFeed_not_mem_floatText (x : Float) : '\n' ∉ floatText x := by
  unfold floatText
  cases h : Decimal.scientific? x with
  | none => decide
  | some text => exact Decimal.lineFeed_not_mem_scientific? h

/-! ### Texts -/

/-- A line feed is no hexadecimal digit. -/
theorem hexDigit_ne_lineFeed {n : Nat} (h : n < 16) : Text.hexDigit n ≠ '\n' := by
  revert n
  decide

/-- A line feed is escaped, and no other character is written with one. -/
theorem lineFeed_not_mem_escapeChar (c : Char) : '\n' ∉ escapeChar c := by
  unfold escapeChar
  -- The characters that have a name of their own are seven, and the line feed is one of them.
  iterate 4
    split
    · decide
  split
  · decide
  next hfeed =>
    iterate 2
      split
      · decide
    split
    -- The control characters without a name are written in hexadecimal digits.
    next hcontrol =>
      have hhigh : '\n' ≠ Text.hexDigit (c.toNat / 16) := (hexDigit_ne_lineFeed (by omega)).symm
      have hlow : '\n' ≠ Text.hexDigit (c.toNat % 16) := (hexDigit_ne_lineFeed (by omega)).symm
      simp [hhigh, hlow]
    next => exact fun hmem => hfeed (List.mem_singleton.mp hmem).symm

/-- There is none in a text between quotes. -/
theorem lineFeed_not_mem_quote (s : List Char) : '\n' ∉ quote s := by
  have hescaped : '\n' ∉ s.flatMap escapeChar := by
    intro h
    obtain ⟨c, -, hc⟩ := List.mem_flatMap.mp h
    exact lineFeed_not_mem_escapeChar c hc
  simp [quote, hescaped]

/-! ### Values -/

mutual

/-- **The text of a value** without blanks stands on one line. -/
theorem lineFeed_not_mem_chars (v : Value) : '\n' ∉ v.chars := by
  match v with
  | .null | .bool true | .bool false | .array [] | .object [] => decide
  | .int n => exact lineFeed_not_mem_intText n
  | .float x => exact lineFeed_not_mem_floatText x
  | .string s => exact lineFeed_not_mem_quote s.toList
  | .array (x :: xs) =>
    simp [Value.chars, lineFeed_not_mem_chars x, lineFeed_not_mem_itemsChars xs]
  | .object ((k, x) :: xs) =>
    simp [Value.chars, lineFeed_not_mem_quote, lineFeed_not_mem_chars x,
      lineFeed_not_mem_membersChars xs]

/-- There is none in the texts of items. -/
theorem lineFeed_not_mem_itemsChars (xs : List Value) : '\n' ∉ itemsChars xs := by
  match xs with
  | [] => decide
  | x :: xs => simp [itemsChars, lineFeed_not_mem_chars x, lineFeed_not_mem_itemsChars xs]

/-- There is none in the texts of members. -/
theorem lineFeed_not_mem_membersChars (xs : List (String × Value)) : '\n' ∉ membersChars xs := by
  match xs with
  | [] => decide
  | (k, x) :: xs =>
    simp [membersChars, lineFeed_not_mem_quote, lineFeed_not_mem_chars x,
      lineFeed_not_mem_membersChars xs]

end

end Json

end Launcher
