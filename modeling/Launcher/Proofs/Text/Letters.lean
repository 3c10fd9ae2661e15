import Launcher.Text.Ascii
import Launcher.Text.Blank

namespace Launcher.Text

/-!
# Letters and their case

* `between_iff` — a range of characters is one of code points.
* `isLetter_iff`, `isLetter_of_isBlank`, `isLetter_of_lowerChar` — which characters are letters.
* `map_upperChar_of_lower_eq` — texts that are the same in lower case are the same in upper case.
* `eq_of_lower_eq`, `isBlank_lowerChar`, `hexValue?_lowerChar` — what the case of letters leaves
  alone.

Letters are those of ASCII here, as the program means them where it reads hexadecimal digits,
hotkeys, colors and units. Every class of characters is a range of code points or a few of them, so
most facts are arithmetic once `between_iff` has turned the comparison of characters into one of
numbers. Where a whole text is compared without regard to case, both texts are taken to lower case.
What is proved of one character carries over to texts, one character after the other, as no
character changes its length.
-/

variable {c d : Char} {s t : List Char}

/-! ### Which characters are letters -/

/-- The code points below the surrogates are those of characters. -/
theorem toNat_ofNat {n : Nat} (h : n < 0xD800) : (Char.ofNat n).toNat = n := by
  rw [Char.ofNat, dif_pos (.inl h)]
  rfl

/-- Characters are in the order of their code points. -/
theorem between_iff {low high : Char} :
    (low ≤ c && c ≤ high) = true ↔ low.toNat ≤ c.toNat ∧ c.toNat ≤ high.toNat := by
  simp only [Bool.and_eq_true, decide_eq_true_eq, Char.le_def, UInt32.le_iff_toNat_le]
  exact Iff.rfl

/-- Letters are two ranges of code points. -/
theorem isLetter_iff : isLetter c = true ↔
    (97 ≤ c.toNat ∧ c.toNat ≤ 122) ∨ (65 ≤ c.toNat ∧ c.toNat ≤ 90) := by
  rw [isLetter, Bool.or_eq_true, between_iff, between_iff]
  exact Iff.rfl

/-- Digits are one. -/
theorem isDigit_iff : isDigit c = true ↔ 48 ≤ c.toNat ∧ c.toNat ≤ 57 :=
  between_iff

/-- No digit is a letter. -/
theorem isLetter_of_isDigit (h : isDigit c = true) : isLetter c = false := by
  rw [isDigit_iff] at h
  rw [Bool.eq_false_iff, ne_eq, isLetter_iff]
  omega

/-- No blank is a letter. -/
theorem isLetter_of_isBlank (h : isBlank c = true) : isLetter c = false := by
  rw [Bool.eq_false_iff, ne_eq, isLetter_iff]
  simp only [isBlank, blankRanges, List.any_cons, List.any_nil, Bool.or_eq_true, Bool.and_eq_true,
    decide_eq_true_eq, Bool.false_eq_true, or_false] at h
  omega

/-- No digit is a blank. -/
theorem isBlank_of_isDigit (h : isDigit c = true) : isBlank c = false := by
  rw [isDigit_iff] at h
  rw [Bool.eq_false_iff]
  intro hblank
  simp only [isBlank, blankRanges, List.any_cons, List.any_nil, Bool.or_eq_true, Bool.and_eq_true,
    decide_eq_true_eq, Bool.false_eq_true, or_false] at hblank
  omega

/-- Only letters have a lower-case form that is a letter. -/
theorem isLetter_of_lowerChar (h : lowerChar c = d) (hd : isLetter d = true) :
    isLetter c = true := by
  unfold lowerChar at h
  split at h
  next hupper =>
    unfold isLetter
    rw [hupper, Bool.or_true]
  next =>
    rw [h]
    exact hd

/-- The lower-case form of a letter is a letter. -/
theorem isLetter_lowerChar (h : isLetter c = true) : isLetter (lowerChar c) = true := by
  unfold lowerChar
  split
  next hupper =>
    have hrange : 65 ≤ c.toNat ∧ c.toNat ≤ 90 := between_iff.mp hupper
    rw [isLetter_iff, toNat_ofNat (by omega)]
    omega
  next => exact h

/-- Only letters have another lower-case form. -/
theorem lowerChar_of_not_isLetter (h : isLetter c = false) : lowerChar c = c := by
  refine if_neg fun hupper => ?_
  rw [isLetter, hupper, Bool.or_true] at h
  exact nomatch h

/-- Letters and digits are no blanks. -/
theorem isBlank_of_isAlphanumeric (h : isAlphanumeric c = true) : isBlank c = false := by
  obtain hletter | hdigit := Bool.or_eq_true_iff.mp h
  · rw [Bool.eq_false_iff]
    intro hblank
    rw [isLetter_of_isBlank hblank] at hletter
    exact nomatch hletter
  · exact isBlank_of_isDigit hdigit

/-! ### Upper case -/

/-- Only lower-case letters have another upper-case form. -/
theorem upperChar_of_lt (h : ¬(97 ≤ c.toNat ∧ c.toNat ≤ 122)) : upperChar c = c := by
  refine if_neg fun hlower => ?_
  have hrange := between_iff.mp hlower
  exact h hrange

/-- That of a lower-case letter is thirty-two code points below it. -/
theorem upperChar_of_le (h : 97 ≤ c.toNat ∧ c.toNat ≤ 122) :
    upperChar c = Char.ofNat (c.toNat - 32) := by
  refine if_pos ?_
  rw [between_iff]
  exact h

/-- An upper-case form is its own. -/
theorem upperChar_upperChar (c : Char) : upperChar (upperChar c) = upperChar c := by
  by_cases h : 97 ≤ c.toNat ∧ c.toNat ≤ 122
  · rw [upperChar_of_le h]
    exact upperChar_of_lt (by rw [toNat_ofNat (by omega)]; omega)
  · rw [upperChar_of_lt h, upperChar_of_lt h]

/-- A letter has one upper-case form in either case. -/
theorem upperChar_lowerChar (c : Char) : upperChar (lowerChar c) = upperChar c := by
  unfold lowerChar
  split
  next hupper =>
    have hrange : 65 ≤ c.toNat ∧ c.toNat ≤ 90 := between_iff.mp hupper
    have htoNat : (Char.ofNat (c.toNat + 32)).toNat = c.toNat + 32 := toNat_ofNat (by omega)
    rw [upperChar_of_le (by omega), upperChar_of_lt (by omega), htoNat, Nat.add_sub_cancel,
      Char.ofNat_toNat]
  next => rfl

/-- Texts that are the same but for the case of letters are the same in upper case. -/
theorem map_upperChar_of_lower_eq (h : lower s = lower t) :
    s.map upperChar = t.map upperChar := by
  have hupper (s : List Char) : (lower s).map upperChar = s.map upperChar := by
    rw [lower, List.map_map]
    exact List.map_congr_left fun c _ => upperChar_lowerChar c
  rw [← hupper s, h, hupper t]

/-! ### Texts that differ in the case of letters only -/

/-- What is no letter is the lower-case form of itself alone. -/
theorem eq_of_lowerChar_eq (hd : isLetter d = false) (h : lowerChar c = lowerChar d) : c = d := by
  rw [lowerChar_of_not_isLetter hd] at h
  cases hc : isLetter c with
  | true =>
    have hlower := isLetter_lowerChar hc
    rw [h, hd] at hlower
    exact nomatch hlower
  | false => rwa [lowerChar_of_not_isLetter hc] at h

/-- A text without letters is its only form. -/
theorem eq_of_lower_eq (h : lower s = lower t) (ht : ∀ c ∈ t, isLetter c = false) : s = t := by
  induction s generalizing t with
  | nil => simpa [lower, eq_comm] using h
  | cons c s ih =>
    cases t with
    | nil => simp [lower] at h
    | cons d t =>
      obtain ⟨hd, htail⟩ := List.forall_mem_cons.mp ht
      obtain ⟨hchar, hrest⟩ := List.cons.inj h
      rw [eq_of_lowerChar_eq hd hchar, ih hrest htail]

/-- A text without letters is its own lower case. -/
theorem lower_of_not_isLetter (h : ∀ c ∈ s, isLetter c = false) : lower s = s := by
  unfold lower
  rw [List.map_congr_left fun c hc => lowerChar_of_not_isLetter (h c hc), List.map_id']

/-- The case of a letter does not make it a blank. -/
theorem isBlank_lowerChar (c : Char) : isBlank (lowerChar c) = isBlank c := by
  cases hc : isLetter c with
  | true =>
    -- Neither a letter nor its lower-case form is a blank.
    have hblank {d : Char} (hd : isLetter d = true) : isBlank d = false := by
      rw [Bool.eq_false_iff]
      intro h
      rw [isLetter_of_isBlank h] at hd
      exact nomatch hd
    rw [hblank hc, hblank (isLetter_lowerChar hc)]
  | false => rw [lowerChar_of_not_isLetter hc]

/-- The case of a hexadecimal digit says nothing about its value. -/
theorem hexValue?_lowerChar (c : Char) : hexValue? (lowerChar c) = hexValue? c := by
  -- The upper-case letters are few, and each is tried.
  have hupper : ∀ n < 91, 65 ≤ n →
      hexValue? (lowerChar (Char.ofNat n)) = hexValue? (Char.ofNat n) := by decide
  by_cases h : 65 ≤ c.toNat ∧ c.toNat ≤ 90
  · simpa using hupper c.toNat (by omega) h.1
  · -- Only upper-case letters have another lower-case form.
    have hsame : lowerChar c = c := by
      refine if_neg fun hletter => ?_
      have hrange := between_iff.mp hletter
      exact h hrange
    rw [hsame]

/-- A text without blanks has none in another case of letters. -/
theorem isBlank_of_lower_eq (h : lower s = lower t)
    (ht : ∀ c ∈ t, isBlank c = false) : ∀ c ∈ s, isBlank c = false := by
  intro c hc
  have hmem : lowerChar c ∈ lower t := h ▸ List.mem_map_of_mem hc
  obtain ⟨d, hd, hdc⟩ := List.mem_map.mp hmem
  rw [Bool.eq_false_iff]
  intro hblank
  obtain rfl := eq_of_lowerChar_eq (isLetter_of_isBlank hblank) hdc
  exact absurd hblank (Bool.eq_false_iff.mp (ht d hd))

end Launcher.Text
