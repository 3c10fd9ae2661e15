import Launcher.Proofs.Decimal.Digits
import Launcher.Proofs.Text.Pieces

namespace Launcher.Decimal

/-!
# Decimals as they are written

What a text of digits and a point denotes is needed in several places: amounts in phrases, numbers
that are displayed, settings. So literals are data here, and a theorem says that their texts are
read as what they denote. The reader also knows words, such as `inf`, and tries them first; no
literal is one of these.

* `readFloat?_minus`, `readFloat?_plus`, `readFloat?_of_isUnsigned` — what is none of the words for
  numbers is read as a sign, if it has one, and an unsigned number.
* `Literal` — a sign or none, digits, at most one point among them, and at least one digit. The
  record holds its own conditions, so that every literal is a number.
* `Literal.text`, `Literal.value` — how it is written, and the double that it denotes.
* `readUnsigned?_magnitude` — without its sign a literal is read digit by digit: up to the point,
  and behind it.
* `readFloat?_text` — such a text is read as the double next to what it denotes.
* `readFloat?_digits` — the double that the digits of a whole number denote.
-/

/-- A sign before a number. -/
inductive WrittenSign where
  | plus
  | minus
deriving DecidableEq

/-- The character of a sign. -/
def WrittenSign.char : WrittenSign → Char
  | .plus => '+'
  | .minus => '-'

/-! ### Signs and words -/

/-- No sign stands at the beginning. -/
def IsUnsigned (s : List Char) : Prop :=
  ∀ c ∈ s.head?, c ≠ '+' ∧ c ≠ '-'

/-- The words for numbers that digits cannot write. -/
def numberWords : List (List Char) :=
  ["inf".toList, "infinity".toList, "nan".toList]

/-- The text is none of the words, in any case of letters. -/
def IsNoWord (s : List Char) : Prop :=
  ∀ word ∈ numberWords, Text.lower s ≠ word

/-- The words, one by one. -/
theorem IsNoWord.ne {s : List Char} (h : IsNoWord s) :
    Text.lower s ≠ "inf".toList ∧ Text.lower s ≠ "infinity".toList ∧ Text.lower s ≠ "nan".toList :=
  ⟨h _ (by decide), h _ (by decide), h _ (by decide)⟩

section Words

variable {s : List Char} (hword : IsNoWord s)
include hword

/-- A minus makes the number negative. -/
theorem readFloat?_minus : readFloat? ('-' :: s) = readUnsigned? true s := by
  obtain ⟨hinf, hinfinity, hnan⟩ := hword.ne
  simp only [readFloat?, hinf, hinfinity, hnan, or_self, if_false]

/-- A plus changes nothing. -/
theorem readFloat?_plus : readFloat? ('+' :: s) = readUnsigned? false s := by
  obtain ⟨hinf, hinfinity, hnan⟩ := hword.ne
  simp only [readFloat?, hinf, hinfinity, hnan, or_self, if_false]

/-- Without a sign the number is read as it stands. -/
theorem readFloat?_of_isUnsigned (h : IsUnsigned s) : readFloat? s = readUnsigned? false s := by
  obtain ⟨hinf, hinfinity, hnan⟩ := hword.ne
  unfold readFloat?
  split
  next negative body heq =>
    -- The first two branches take a sign away.
    obtain ⟨rfl, rfl⟩ : negative = false ∧ body = s := by
      split at heq
      next => exact absurd rfl (h '-' rfl).2
      next => exact absurd rfl (h '+' rfl).1
      next => exact ⟨(congrArg Prod.fst heq).symm, (congrArg Prod.snd heq).symm⟩
    simp only [hinf, hinfinity, hnan, or_self, if_false]

end Words

/-! ### Literals -/

/-- A decimal as it is written: a sign or none, digits with at most one point among them, and at least
one digit. -/
structure Literal where
  sign? : Option WrittenSign
  /-- The digits before the point. -/
  whole : List Char
  /-- The digits behind the point, if there is one. -/
  fraction? : Option (List Char)
  isDigit_of_mem : ∀ c ∈ whole ++ fraction?.getD [], Text.isDigit c = true
  digits_ne_nil : whole ++ fraction?.getD [] ≠ []

namespace Literal

variable (l : Literal)

/-- All digits. -/
def digits : List Char :=
  l.whole ++ l.fraction?.getD []

/-- The point and the digits behind it. -/
def pointed : List Char :=
  match l.fraction? with
  | some fraction => '.' :: fraction
  | none => []

/-- The literal without its sign. -/
def magnitude : List Char :=
  l.whole ++ l.pointed

/-- The sign, if one is written. -/
def signText : List Char :=
  (l.sign?.map WrittenSign.char).toList

/-- The literal as a text. -/
def text : List Char :=
  l.signText ++ l.magnitude

/-- The double next to what the literal denotes: its digits as a whole number, divided by ten for each
digit behind the point. -/
def value : Float :=
  ofScientific (l.sign? = some .minus) (ofDigits l.digits) (-((l.fraction?.getD []).length : Int))

/-! ### Characters -/

/-- The digits before the point are digits. -/
theorem isDigit_whole : ∀ c ∈ l.whole, Text.isDigit c = true :=
  fun c hc => l.isDigit_of_mem c (List.mem_append_left _ hc)

theorem isDigit_fraction : ∀ c ∈ l.fraction?.getD [], Text.isDigit c = true :=
  fun c hc => l.isDigit_of_mem c (List.mem_append_right _ hc)

/-- But for the point, the characters are the digits. -/
theorem mem_magnitude_iff {c : Char} (hpoint : c ≠ '.') : c ∈ l.magnitude ↔ c ∈ l.digits := by
  unfold magnitude digits pointed
  rw [List.mem_append, List.mem_append]
  cases l.fraction? with
  | some fraction => simp [hpoint]
  | none => rfl

/-- Without its sign a literal has digits and a point only. -/
theorem of_mem_magnitude {c : Char} (h : c ∈ l.magnitude) : Text.isDigit c = true ∨ c = '.' := by
  by_cases hpoint : c = '.'
  · exact .inr hpoint
  · exact .inl (l.isDigit_of_mem c ((l.mem_magnitude_iff hpoint).mp h))

/-- No other characters stand in it. -/
theorem not_mem_magnitude {d : Char} (hd : Text.isDigit d = false) (hpoint : d ≠ '.') :
    d ∉ l.magnitude := by
  intro h
  obtain hdigit | rfl := l.of_mem_magnitude h
  · rw [hd] at hdigit
    exact nomatch hdigit
  · exact hpoint rfl

/-- There is a digit in a literal. -/
theorem any_isDigit_magnitude : l.magnitude.any Text.isDigit = true := by
  obtain ⟨c, hc⟩ := List.exists_mem_of_ne_nil l.digits l.digits_ne_nil
  have hdigit := l.isDigit_of_mem c hc
  have hmem := (l.mem_magnitude_iff (ne_point_of_isDigit hdigit)).mpr hc
  exact List.any_eq_true.mpr ⟨c, hmem, hdigit⟩

/-- So there is something without its sign. -/
theorem magnitude_ne_nil : l.magnitude ≠ [] := by
  intro hnil
  have hany := l.any_isDigit_magnitude
  rw [hnil] at hany
  exact nomatch hany

/-- A literal is not empty. -/
theorem text_ne_nil : l.text ≠ [] :=
  List.append_ne_nil_of_right_ne_nil _ l.magnitude_ne_nil

/-- A literal begins with no blank. -/
theorem trimStart_text : Text.trimStart l.text = l.text := by
  refine Text.trimStart_eq_self_iff.mpr fun c hc => ?_
  -- It begins with its sign, or with a digit or the point.
  obtain hsign | hmagnitude := List.mem_append.mp (List.mem_of_mem_head? hc)
  · unfold signText at hsign
    match l.sign?, hsign with
    | some .plus, hsign =>
      rw [List.mem_singleton.mp hsign]
      decide
    | some .minus, hsign =>
      rw [List.mem_singleton.mp hsign]
      decide
  · obtain hdigit | rfl := l.of_mem_magnitude hmagnitude
    · exact Text.isBlank_of_isDigit hdigit
    · decide

/-! ### Reading -/

/-- The digits before the point end there. -/
theorem endsNumber_pointed : EndsNumber l.pointed := by
  intro c hc
  unfold pointed at hc
  split at hc
  next =>
    obtain rfl := Option.some.inj hc
    decide
  next => exact nomatch hc

/-- Without its sign a literal is read as the digits that it has, and as many places as stand behind
the point. -/
theorem readUnsigned?_magnitude (negative : Bool) :
    readUnsigned? negative l.magnitude =
      some (ofScientific negative (ofDigits l.digits) (-((l.fraction?.getD []).length : Int))) := by
  have hwhole := spanDigits_append l.isDigit_whole l.endsNumber_pointed
  have hfraction := spanDigits_append l.isDigit_fraction endsNumber_nil
  -- One side of the point may have no digits, but not both.
  have hempty : (l.whole.isEmpty && (l.fraction?.getD []).isEmpty) = false := by
    rw [Bool.and_eq_false_iff, List.isEmpty_eq_false_iff, List.isEmpty_eq_false_iff]
    by_cases hnil : l.whole = []
    · exact .inr fun h => l.digits_ne_nil (by rw [hnil, h]; rfl)
    · exact .inl hnil
  unfold readUnsigned? magnitude digits
  rw [hwhole]
  unfold pointed
  cases hsome : l.fraction? with
  | none =>
    rw [hsome] at hempty
    simp only [Option.getD_none] at hempty ⊢
    simp only [hempty, Bool.false_eq_true, if_false]
    rfl
  | some fraction =>
    rw [hsome] at hempty hfraction
    simp only [Option.getD_some, List.append_nil] at hempty hfraction ⊢
    simp only [hempty, hfraction, Bool.false_eq_true, if_false, Option.map_some, Int.zero_sub]

/-- Digits and points have no other case. -/
theorem lower_magnitude : Text.lower l.magnitude = l.magnitude := by
  have hlower : ∀ c ∈ l.magnitude, Text.lowerChar c = c := by
    intro c hc
    obtain hdigit | rfl := l.of_mem_magnitude hc
    · exact lowerChar_of_isDigit hdigit
    · rfl
  unfold Text.lower
  rw [List.map_congr_left hlower]
  exact List.map_id _

/-- Digits are no word. -/
theorem isNoWord_magnitude : IsNoWord l.magnitude := by
  intro word hword hlower
  rw [lower_magnitude] at hlower
  -- Each of the words has an `n`.
  have hn : ∀ word ∈ numberWords, 'n' ∈ word := by decide
  exact l.not_mem_magnitude (by decide) (by decide) (hlower ▸ hn word hword)

/-- A literal without its sign does not begin with one, whatever follows it. -/
theorem isUnsigned_magnitude_append (rest : List Char) : IsUnsigned (l.magnitude ++ rest) := by
  intro c hc
  have hmem : c ∈ l.magnitude := by
    obtain ⟨first, tail, hcons⟩ := List.exists_cons_of_ne_nil l.magnitude_ne_nil
    rw [hcons] at hc ⊢
    exact Option.some.inj hc ▸ List.mem_cons_self
  constructor
  · rintro rfl
    exact l.not_mem_magnitude (by decide) (by decide) hmem
  · rintro rfl
    exact l.not_mem_magnitude (by decide) (by decide) hmem

/-- **A literal is read as the double** next to what it denotes. -/
theorem readFloat?_text : readFloat? l.text = some l.value := by
  have hword := l.isNoWord_magnitude
  unfold text signText value
  match l.sign? with
  | some .minus => exact (readFloat?_minus hword).trans (l.readUnsigned?_magnitude true)
  | some .plus => exact (readFloat?_plus hword).trans (l.readUnsigned?_magnitude false)
  | none =>
    have hunsigned := l.isUnsigned_magnitude_append []
    rw [List.append_nil] at hunsigned
    exact (readFloat?_of_isUnsigned hword hunsigned).trans (l.readUnsigned?_magnitude false)

/-- The digits of a whole number. -/
def ofNat (n : Nat) : Literal where
  sign? := none
  whole := Decimal.digits n
  fraction? := none
  isDigit_of_mem := by simpa using isDigit_of_mem_digits n
  digits_ne_nil := by simpa using Decimal.digits_ne_nil n

end Literal

/-- The digits of a whole number denote the double next to it. -/
theorem readFloat?_digits (n : Nat) : readFloat? (digits n) = some (ofScientific false n 0) := by
  have htext : (Literal.ofNat n).text = digits n := List.append_nil (digits n)
  have hdigits : ofDigits (digits n ++ []) = n := by rw [List.append_nil, ofDigits_digits]
  have hvalue : (Literal.ofNat n).value = ofScientific false n 0 :=
    congrArg (ofScientific false · 0) hdigits
  rw [← htext, (Literal.ofNat n).readFloat?_text, hvalue]

end Launcher.Decimal
