import Launcher.Proofs.Decimal.Doubles
import Launcher.Proofs.Decimal.Literals
import Mathlib.Tactic.Ring

namespace Launcher.Decimal

/-!
# Whole numbers as doubles

Documents hold numbers as doubles, and some of these numbers are counts or times of up to sixty-four
bits. A double has fifty-three bits, so such a number may not come back. Which ones do is said in
terms of whole numbers only: the number next to it among those that are doubles.

* `lastPlace`, `nearestUnits` — what the last bit is worth, and the number in such units.
* `nearestWhole` — the whole number next to another among those that are doubles.
* `nearestWhole_eq_iff` — which numbers are doubles themselves.
* `bitsOfRatio_whole` — the word that the program makes of a whole number. A significand that was
  rounded up to one bit more carries into the exponent, which is right as it is.
* `shifted_eq` — the significand at its exponent, cut to a whole number.
* `ofFloat_ofRatio` — the double next to a whole number stands for `nearestWhole`.
* `readFloat?_whole` — so do the digits of the number when they are read.
-/

/-! ### The nearest whole number -/

/-- What the last bit of a double next to a number is worth, if that is whole. -/
def lastPlace (n : Nat) : Nat :=
  2 ^ (n.log2 - 52)

/-- A number in units of the last place, a tie going to the even one. -/
def nearestUnits (n : Nat) : Nat :=
  let q := n / lastPlace n
  let twice := 2 * (n % lastPlace n)
  if twice > lastPlace n ∨ (twice = lastPlace n ∧ q % 2 = 1) then q + 1 else q

/-- The whole number next to another among those that are doubles. -/
def nearestWhole (n : Nat) : Nat :=
  nearestUnits n * lastPlace n

/-- The last place is worth something. -/
theorem lastPlace_pos (n : Nat) : 0 < lastPlace n :=
  Nat.two_pow_pos _

/-- **A whole number is a double** exactly if it is a multiple of its last place. -/
theorem nearestWhole_eq_iff (n : Nat) : nearestWhole n = n ↔ lastPlace n ∣ n := by
  constructor
  · intro h
    exact ⟨nearestUnits n, (Nat.mul_comm _ _).trans h |>.symm⟩
  · intro h
    have hpos := lastPlace_pos n
    have hrest : n % lastPlace n = 0 := Nat.mod_eq_zero_of_dvd h
    have hunits : nearestUnits n = n / lastPlace n := by
      unfold nearestUnits
      simp only [hrest]
      rw [if_neg (by omega)]
    unfold nearestWhole
    rw [hunits]
    exact Nat.div_mul_cancel h

/-- Numbers of at most fifty-three bits are doubles. -/
theorem nearestWhole_of_lt {n : Nat} (h : n < 2 ^ 53) : nearestWhole n = n := by
  rw [nearestWhole_eq_iff]
  unfold lastPlace
  have hlog : n.log2 - 52 = 0 := by
    by_cases hzero : n = 0
    · rw [hzero]
      rfl
    · have hlt := (Nat.log2_lt hzero).mpr h
      omega
  rw [hlog]
  exact Nat.one_dvd n

section Bounds

variable {n : Nat} (hn : 0 < n)
include hn

/-- The leading bit is worth no more than the number. -/
theorem two_pow_log2_le : 2 ^ n.log2 ≤ n :=
  Nat.log2_self_le (Nat.ne_of_gt hn)

/-- In units of the last place a large number has at least fifty-three bits. -/
theorem le_units (h : 52 ≤ n.log2) : 2 ^ 52 ≤ n / lastPlace n := by
  rw [Nat.le_div_iff_mul_le (lastPlace_pos n), lastPlace, ← Nat.pow_add,
    Nat.add_sub_cancel' h]
  exact two_pow_log2_le hn

omit hn in

/-- It has no more of them. -/
theorem units_lt (h : 52 ≤ n.log2) : n / lastPlace n < 2 ^ 53 := by
  rw [Nat.div_lt_iff_lt_mul (lastPlace_pos n), lastPlace, ← Nat.pow_add]
  have hexponent : 53 + (n.log2 - 52) = n.log2 + 1 := by omega
  rw [hexponent]
  exact Nat.lt_log2_self

/-- Rounding may make it one bit longer. -/
theorem nearestUnits_bounds (h : 52 ≤ n.log2) :
    2 ^ 52 ≤ nearestUnits n ∧ nearestUnits n ≤ 2 ^ 53 := by
  have hle := le_units hn h
  have hlt := units_lt h
  unfold nearestUnits
  dsimp only
  split <;> omega

omit hn in

/-- A number of at most fifty-three bits is not rounded. -/
theorem nearestUnits_of_le (h : n.log2 ≤ 52) : nearestUnits n = n ∧ lastPlace n = 1 := by
  have hplace : lastPlace n = 1 := by
    unfold lastPlace
    rw [Nat.sub_eq_zero_of_le h]
    rfl
  refine ⟨?_, hplace⟩
  unfold nearestUnits
  rw [hplace]
  simp [Nat.mod_one]

end Bounds

/-! ### The word of the nearest double -/

/-- The significand of fifty-three bits, or one more, of the double next to a number. -/
def significand (n : Nat) : Nat :=
  nearestUnits n * 2 ^ (52 - n.log2)

/-- The significand has fifty-three bits, or is the next power of two. -/
theorem significand_bounds {n : Nat} (hn : 0 < n) :
    2 ^ 52 ≤ significand n ∧ significand n ≤ 2 ^ 53 := by
  unfold significand
  by_cases h : 52 ≤ n.log2
  · rw [Nat.sub_eq_zero_of_le h, Nat.pow_zero, Nat.mul_one]
    exact nearestUnits_bounds hn h
  · have hle : n.log2 ≤ 52 := Nat.le_of_not_le h
    rw [(nearestUnits_of_le hle).1]
    have hlow : 2 ^ n.log2 * 2 ^ (52 - n.log2) = 2 ^ 52 := by
      rw [← Nat.pow_add, Nat.add_sub_cancel' hle]
    have hhigh : 2 ^ (n.log2 + 1) * 2 ^ (52 - n.log2) = 2 ^ 53 := by
      rw [← Nat.pow_add]
      congr 1
      omega
    constructor
    · rw [← hlow]
      exact Nat.mul_le_mul_right _ (two_pow_log2_le hn)
    · rw [← hhigh]
      exact Nat.mul_le_mul_right _ (Nat.le_of_lt Nat.lt_log2_self)

/-- The word of the double next to a whole number. -/
theorem bitsOfRatio_whole {n : Nat} (hn : 0 < n) (hlog : n.log2 ≤ 63) :
    bitsOfRatio false n 1 = (n.log2 + 1022) * leadingBit + significand n := by
  have hne : ¬(n = 0 ∨ 1 = 0) := by omega
  have hone : Nat.log2 1 = 0 := by decide
  have hsize : (n.log2 : Int) - (0 : Nat) = n.log2 := Int.sub_zero _
  have htop : ¬n <<< (-(n.log2 : Int)).toNat < 1 <<< (n.log2 : Int).toNat := by
    have hzero : (-(n.log2 : Int)).toNat = 0 := by omega
    rw [hzero, Int.toNat_natCast, Nat.shiftLeft_zero, Nat.one_shiftLeft]
    exact Nat.not_lt.mpr (two_pow_log2_le hn)
  have hunit : max ((n.log2 : Int) - 52) (-1074) = (n.log2 : Int) - 52 := by omega
  have hnum : n <<< (-((n.log2 : Int) - 52)).toNat = n * 2 ^ (52 - n.log2) := by
    have hshift : (-((n.log2 : Int) - 52)).toNat = 52 - n.log2 := by omega
    rw [hshift, Nat.shiftLeft_eq]
  have hden : 1 <<< ((n.log2 : Int) - 52).toNat = lastPlace n := by
    have hshift : ((n.log2 : Int) - 52).toNat = n.log2 - 52 := by omega
    rw [hshift, Nat.one_shiftLeft, lastPlace]
  -- A small number is shifted and exact; a large one is rounded in units of its last place.
  have hunits : (let q := n * 2 ^ (52 - n.log2) / lastPlace n
      let twice := 2 * (n * 2 ^ (52 - n.log2) % lastPlace n)
      if twice > lastPlace n ∨ (twice = lastPlace n ∧ q % 2 = 1) then q + 1 else q) =
        significand n := by
    by_cases h : 52 ≤ n.log2
    · unfold significand
      rw [Nat.sub_eq_zero_of_le h, Nat.pow_zero, Nat.mul_one, Nat.mul_one]
      rfl
    · obtain ⟨hunits, hplace⟩ := nearestUnits_of_le (Nat.le_of_not_le h)
      unfold significand
      rw [hunits, hplace]
      simp [Nat.mod_one]
  obtain ⟨hlow, hhigh⟩ := significand_bounds hn
  have hexponent : ((n.log2 : Int) - 52 + 1074).toNat = n.log2 + 1022 := by omega
  have hnormal : ¬significand n < leadingBit := Nat.not_lt.mpr hlow
  dsimp only at hunits
  unfold bitsOfRatio
  simp only [if_neg hne, hone, hsize, if_neg htop, hunit, hnum, hden, hunits, if_neg hnormal,
    hexponent]
  have hmin : (n.log2 + 1022) * leadingBit + significand n ≤ 2047 * leadingBit := by
    have hle : (n.log2 + 1022) * leadingBit ≤ 1085 * leadingBit :=
      Nat.mul_le_mul_right _ (by omega)
    have hbit : leadingBit = 2 ^ 52 := by decide
    omega
  simp [Nat.min_eq_left hmin]

/-! ### The value of the nearest double -/

/-- A significand at an exponent, cut to a whole number. -/
theorem shifted_eq {q n a b : Nat} (h : q * 2 ^ a = n * 2 ^ b) :
    (q <<< ((a : Int) - b).toNat) >>> (-((a : Int) - b)).toNat = n := by
  have hleft : ((a : Int) - b).toNat = a - b := by omega
  have hright : (-((a : Int) - b)).toNat = b - a := by omega
  rw [hleft, hright, Nat.shiftLeft_eq, Nat.shiftRight_eq_div_pow]
  obtain hle | hle := Nat.le_total b a
  · obtain ⟨c, rfl⟩ := Nat.exists_eq_add_of_le hle
    rw [Nat.pow_add, Nat.mul_left_comm, ← Nat.mul_comm (n := q * _), Nat.mul_comm n] at h
    rw [Nat.add_sub_cancel_left, Nat.sub_eq_zero_of_le hle, Nat.pow_zero, Nat.div_one]
    exact Nat.eq_of_mul_eq_mul_left (Nat.two_pow_pos b) (by rw [← h, Nat.mul_comm])
  · obtain ⟨c, rfl⟩ := Nat.exists_eq_add_of_le hle
    rw [Nat.pow_add, ← Nat.mul_assoc, Nat.mul_right_comm] at h
    rw [Nat.add_sub_cancel_left, Nat.sub_eq_zero_of_le hle, Nat.pow_zero, Nat.mul_one,
      Nat.eq_of_mul_eq_mul_right (Nat.two_pow_pos a) h]
    exact Nat.mul_div_cancel _ (Nat.two_pow_pos c)

/-- The significand at its exponent is the nearest whole number. -/
theorem significand_mul (n : Nat) : significand n * 2 ^ n.log2 = nearestWhole n * 2 ^ 52 := by
  unfold significand nearestWhole
  obtain hle | hle := Nat.le_total 52 n.log2
  · unfold lastPlace
    rw [Nat.sub_eq_zero_of_le hle, Nat.pow_zero, Nat.mul_one, Nat.mul_assoc, ← Nat.pow_add,
      Nat.sub_add_cancel hle]
  · rw [(nearestUnits_of_le hle).2, Nat.mul_one, Nat.mul_assoc, ← Nat.pow_add,
      Nat.sub_add_cancel hle]

/-- No number but zero is rounded to zero. -/
theorem nearestWhole_pos {n : Nat} (hn : 0 < n) : 0 < nearestWhole n := by
  have hlow := (significand_bounds hn).1
  have hmul := significand_mul n
  have hpos : 0 < significand n * 2 ^ n.log2 :=
    Nat.mul_pos (Nat.lt_of_lt_of_le (by decide) hlow) (Nat.two_pow_pos _)
  rw [hmul] at hpos
  exact Nat.pos_of_mul_pos_right hpos

/-- **The double next to a whole number** of sixty-four bits stands for the nearest one. -/
theorem ofFloat_ofRatio {n : Nat} (h : n < 2 ^ 64) :
    ∃ q e, Magnitude.ofFloat (ofRatio false n 1) = .finite ⟨false, q, e⟩ ∧
      (q <<< e.toNat) >>> (-e).toNat = nearestWhole n := by
  obtain rfl | hn := Nat.eq_zero_or_pos n
  · exact ⟨0, -1074, by decide +kernel, by decide⟩
  have hlog : n.log2 ≤ 63 := Nat.le_of_lt_succ ((Nat.log2_lt (Nat.ne_of_gt hn)).mpr h)
  have hbits := bitsOfRatio_whole hn hlog
  obtain ⟨hlow, hhigh⟩ := significand_bounds hn
  have hleading : leadingBit = 4503599627370496 := by decide
  have hsign : signBit = 9223372036854775808 := by decide
  have hvalue : Magnitude.ofFloat (ofRatio false n 1) =
      .ofBits ((n.log2 + 1022) * leadingBit + significand n) := by
    unfold ofRatio
    rw [hbits]
    refine ofFloat_ofBits ?_ ?_ ?_ <;> rw [hleading] <;> omega
  have hmul := significand_mul n
  rw [hvalue]
  unfold Magnitude.ofBits
  rw [hleading, hsign]
  generalize significand n = q at *
  generalize nearestWhole n = m at *
  generalize n.log2 = l at *
  -- From here on it is arithmetic: the fields of a word that is a sum.
  have hpositive : ((l + 1022) * 4503599627370496 + q) / 9223372036854775808 % 2 = 0 := by omega
  -- A significand that was rounded up to fifty-four bits carries into the exponent.
  obtain hlt | rfl : q < 2 ^ 53 ∨ q = 2 ^ 53 := by omega
  · have hexponent : ((l + 1022) * 4503599627370496 + q) / 4503599627370496 % 2048 = l + 1023 := by
      omega
    have hfraction : 4503599627370496 + ((l + 1022) * 4503599627370496 + q) % 4503599627370496 =
        q := by omega
    refine ⟨q, (l : Int) - (52 : Nat), ?_, shifted_eq hmul⟩
    simp only [hexponent, hpositive, hfraction]
    rw [if_neg (by omega), if_neg (by omega)]
    simp
    omega
  · have hexponent : ((l + 1022) * 4503599627370496 + 2 ^ 53) / 4503599627370496 % 2048 =
        l + 1024 := by omega
    have hfraction : 4503599627370496 +
        ((l + 1022) * 4503599627370496 + 2 ^ 53) % 4503599627370496 = 2 ^ 52 := by omega
    refine ⟨2 ^ 52, ((l + 1 : Nat) : Int) - (52 : Nat), ?_, shifted_eq ?_⟩
    · simp only [hexponent, hpositive, hfraction]
      rw [if_neg (by omega), if_neg (by omega)]
      simp
      omega
    · rw [← hmul]
      ring

/-! ### Reading -/

/-- A whole number is read as a quotient by one. -/
theorem ofScientific_whole {n : Nat} (h : n < 2 ^ 64) :
    ofScientific false n 0 = ofRatio false n 1 := by
  have hcount : digitCount n ≤ 20 := length_digits_le (Nat.lt_of_lt_of_le h (by decide))
  unfold ofScientific
  obtain rfl | hn := Nat.eq_zero_or_pos n
  · rfl
  · dsimp only
    rw [if_neg (by omega), if_neg (by omega)]
    congr 1
    exact Nat.mul_one n

/-- The digits of a whole number of sixty-four bits denote the double next to it. -/
theorem readFloat?_whole {n : Nat} (h : n < 2 ^ 64) :
    readFloat? (digits n) = some (ofRatio false n 1) := by
  rw [readFloat?_digits, ofScientific_whole h]

/-- A number of sixty-four bits is not too large for a double. -/
theorem isFinite_ofRatio {n : Nat} (h : n < 2 ^ 64) : isFinite (ofRatio false n 1) = true := by
  obtain ⟨q, e, hvalue, -⟩ := ofFloat_ofRatio h
  unfold isFinite
  rw [hvalue]

end Launcher.Decimal
