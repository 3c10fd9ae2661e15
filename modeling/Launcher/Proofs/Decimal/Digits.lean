import Launcher.Decimal.Reader
import Mathlib.Algebra.Group.Nat.Defs

namespace Launcher.Decimal

/-!
# Digits read back

Numbers are written as decimal digits and read again in many places: in identities, in documents, in
colors, in amounts. What all of these need is gathered here, for the program's own functions.

* `isDigit_digitChar`, `digitValue_digitChar` — single digits.
* `digits_of_lt`, `digits_of_le` — the two cases of the digits of a number; the inductions below are
  on the number by them.
* `ofDigits_digits` — the digits of a number denote it.
* `head_digits`, `of_digits_append_zero` — no zero stands before other digits.
* `readNat?_digits`, `readWord?_digits` — so they are read back.
* `toDigits_eq_digits` — a number is shown by its digits.
* `length_digits_le` — how many digits there are.
* `spanDigits_append` — a run of digits ends where no digit follows.
-/

/-! ### Single digits -/

/-- The digit of a small number is one. -/
theorem isDigit_digitChar {n : Nat} (h : n < 10) : Text.isDigit (Text.digitChar n) = true := by
  revert n
  decide

/-- It is worth that number. -/
theorem digitValue_digitChar {n : Nat} (h : n < 10) : Text.digitValue (Text.digitChar n) = n := by
  revert n
  decide

/-- Only the digit of zero is a zero. -/
theorem digitChar_ne_zero {n : Nat} (h : n < 10) (hpos : 0 < n) : Text.digitChar n ≠ '0' := by
  revert n
  decide

/-- There are ten digits. -/
theorem eq_digitChar {c : Char} (h : Text.isDigit c = true) :
    ∃ n < 10, c = Text.digitChar n := by
  simp only [Text.isDigit, Bool.and_eq_true, decide_eq_true_eq, Char.le_def,
    UInt32.le_iff_toNat_le] at h
  have hlow : 48 ≤ c.toNat := h.1
  have hhigh : c.toNat ≤ 57 := h.2
  refine ⟨c.toNat - 48, by omega, ?_⟩
  show c = Char.ofNat (48 + (c.toNat - 48))
  rw [Nat.add_sub_cancel' hlow, Char.ofNat_toNat]

/-- A digit is no letter, so it has no other case. -/
theorem lowerChar_of_isDigit {c : Char} (h : Text.isDigit c = true) : Text.lowerChar c = c := by
  obtain ⟨n, hn, rfl⟩ := eq_digitChar h
  clear h
  revert n
  decide

/-- A point is no digit. -/
theorem ne_point_of_isDigit {c : Char} (h : Text.isDigit c = true) : c ≠ '.' := by
  rintro rfl
  exact absurd h (by decide)

/-! ### Runs of digits -/

/-- A number below ten has one digit. -/
theorem digits_of_lt {n : Nat} (h : n < 10) : digits n = [Text.digitChar n] := by
  rw [digits, if_pos h]

/-- Any other has the digits of its tenth, and one more. -/
theorem digits_of_le {n : Nat} (h : 10 ≤ n) :
    digits n = digits (n / 10) ++ [Text.digitChar (n % 10)] := by
  rw [digits, if_neg (Nat.not_lt.mpr h)]

/-- There is a digit. -/
theorem digits_ne_nil (n : Nat) : digits n ≠ [] := by
  rw [digits]
  split <;> simp

/-- The digits of a number are digits. -/
theorem isDigit_of_mem_digits (n : Nat) : ∀ c ∈ digits n, Text.isDigit c = true := by
  induction n using digits.induct with
  | case1 n hlt =>
    rw [digits_of_lt hlt]
    rintro c hc
    rw [List.mem_singleton.mp hc]
    exact isDigit_digitChar hlt
  | case2 n hle ih =>
    rw [digits_of_le (Nat.not_lt.mp hle)]
    intro c hc
    obtain hc | hc := List.mem_append.mp hc
    · exact ih c hc
    · rw [List.mem_singleton.mp hc]
      exact isDigit_digitChar (Nat.mod_lt n (by decide))

/-- No text that begins with digits begins with anything else. -/
theorem digits_append_ne {d : Char} (hd : Text.isDigit d = false) (n : Nat)
    (rest tail : List Char) : digits n ++ rest ≠ d :: tail := by
  have hdigits := isDigit_of_mem_digits n
  have hne := digits_ne_nil n
  -- All that matters is that there is a first digit.
  generalize digits n = ds at hdigits hne
  cases ds with
  | nil => exact absurd rfl hne
  | cons c ds =>
    rintro heq
    obtain rfl : c = d := (List.cons.inj heq).1
    rw [hdigits c List.mem_cons_self] at hd
    exact nomatch hd

/-- Only the digits of zero begin with a zero. -/
theorem head_digits {n : Nat} (h : 0 < n) : ∃ c ds, digits n = c :: ds ∧ c ≠ '0' := by
  induction n using digits.induct with
  | case1 n hlt => exact ⟨_, [], digits_of_lt hlt, digitChar_ne_zero hlt h⟩
  | case2 n hle ih =>
    obtain ⟨c, ds, hds, hc⟩ := ih (by omega)
    refine ⟨c, ds ++ [Text.digitChar (n % 10)], ?_, hc⟩
    rw [digits_of_le (Nat.not_lt.mp hle), hds]
    rfl

/-- So a zero at the beginning is all there is of the number. -/
theorem of_digits_append_zero {n : Nat} {rest tail : List Char}
    (h : digits n ++ rest = '0' :: tail) : digits n = ['0'] ∧ rest = tail := by
  obtain rfl | hn := Nat.eq_zero_or_pos n
  · have hzero : digits 0 = ['0'] := digits_of_lt (by decide)
    rw [hzero] at h
    exact ⟨hzero, (List.cons.inj h).2⟩
  · obtain ⟨c, ds, hds, hc⟩ := head_digits hn
    rw [hds] at h
    exact absurd (List.cons.inj h).1 hc

/-- **The digits of a number denote it.** -/
theorem ofDigits_digits (n : Nat) : ofDigits (digits n) = n := by
  induction n using digits.induct with
  | case1 n hlt =>
    rw [digits_of_lt hlt]
    show 0 * 10 + Text.digitValue (Text.digitChar n) = n
    rw [digitValue_digitChar hlt]
    omega
  | case2 n hle ih =>
    have hlast : n % 10 < 10 := Nat.mod_lt n (by decide)
    rw [digits_of_le (Nat.not_lt.mp hle)]
    unfold ofDigits at ih ⊢
    rw [List.foldl_append, ih]
    show n / 10 * 10 + Text.digitValue (Text.digitChar (n % 10)) = n
    rw [digitValue_digitChar hlast]
    omega

/-- A number is shown by its digits. -/
theorem toDigits_eq_digits (n : Nat) : Nat.toDigits 10 n = digits n := by
  have hchar : ∀ n < 10, Nat.digitChar n = Text.digitChar n := by decide
  induction n using digits.induct with
  | case1 n hlt => rw [digits_of_lt hlt, Nat.toDigits_of_lt_base hlt, hchar n hlt]
  | case2 n hle ih =>
    have hlast : n % 10 < 10 := Nat.mod_lt n (by decide)
    rw [digits_of_le (Nat.not_lt.mp hle), ← ih, ← hchar _ hlast,
      ← Nat.toDigits_of_lt_base (b := 10) hlast,
      Nat.toDigits_append_toDigits (by decide) (by omega) hlast, Nat.div_add_mod]

/-- The digits of a number are read back. -/
theorem readNat?_digits (n : Nat) : readNat? (digits n) = some n := by
  have hall : (digits n).all Text.isDigit = true :=
    List.all_eq_true.mpr (isDigit_of_mem_digits n)
  unfold readNat?
  rw [hall, ofDigits_digits]
  simp [digits_ne_nil]

/-- A number that is small enough is read back, as it has no sign. -/
theorem readWord?_digits {bits n : Nat} (h : n < 1 <<< bits) :
    readWord? bits (digits n) = some n := by
  have hplus (rest : List Char) : digits n ≠ '+' :: rest := by
    have hne := digits_append_ne (d := '+') (by decide) n [] rest
    rwa [List.append_nil] at hne
  unfold readWord?
  split
  next rest heq => exact absurd heq (hplus rest)
  next =>
    show (readNat? (digits n)).filter (· < 1 <<< bits) = some n
    rw [readNat?_digits]
    exact Option.filter_some_pos (decide_eq_true h)

/-- A number below a power of ten has as many digits at most as its exponent says. -/
theorem length_digits_le {n k : Nat} (h : n < 10 ^ (k + 1)) : (digits n).length ≤ k + 1 := by
  induction k generalizing n with
  | zero =>
    rw [digits_of_lt (by simpa using h)]
    exact Nat.le_refl _
  | succ k ih =>
    by_cases hlt : n < 10
    · rw [digits_of_lt hlt]
      exact Nat.le_add_left _ _
    · have hdiv : n / 10 < 10 ^ (k + 1) := by
        rw [Nat.div_lt_iff_lt_mul (by decide)]
        exact h
      rw [digits_of_le (Nat.not_lt.mp hlt), List.length_append]
      exact Nat.succ_le_succ (ih hdiv)

/-! ### Reading -/

/-- No digit stands at the beginning. -/
def EndsNumber (rest : List Char) : Prop :=
  ∀ c ∈ rest.head?, Text.isDigit c = false

theorem endsNumber_nil : EndsNumber [] := nofun

/-- Digits are cut off where no digit follows. -/
theorem spanDigits_append {ds rest : List Char} (hds : ∀ c ∈ ds, Text.isDigit c = true)
    (hrest : EndsNumber rest) : spanDigits (ds ++ rest) = (ds, rest) := by
  have hspan : rest.takeWhile Text.isDigit = [] ∧ rest.dropWhile Text.isDigit = rest := by
    cases rest with
    | nil => exact ⟨rfl, rfl⟩
    | cons c rest =>
      have hc := hrest c rfl
      simp [hc]
  unfold spanDigits
  rw [List.takeWhile_append_of_pos hds, List.dropWhile_append_of_pos hds, hspan.1, hspan.2,
    List.append_nil]

/-- The digits of a number are cut off as a whole. -/
theorem spanDigits_digits (n : Nat) : spanDigits (digits n) = (digits n, []) := by
  have hspan := spanDigits_append (isDigit_of_mem_digits n) endsNumber_nil
  rwa [List.append_nil] at hspan

end Launcher.Decimal
