import Launcher.Proofs.Decimal.Rounding

namespace Launcher.Decimal

/-!
# The exact values of doubles

The program writes doubles in decimal by taking their words apart and computing in whole numbers. To
say that what it writes is right, a double needs a value: a fraction, its significand times a power
of two. The value is defined from the word, as the program reads it; that the library's operations
on doubles respect it is shown for the ones that the program uses before writing.

* `Magnitude.ofUnpacked` — the sign, the significand and the exponent of an unpacked double;
  `ofBits_eq` and `ofFloat_eq` read the same off its word.
* `unpack_of_finite` — a finite double is zero or has all three; most lemmas below have these two
  cases.
* `ofFloat_abs`, `lt_zero_iff` — the absolute value and the sign of a double.
* `Dyadic.size`, `Dyadic.toRat`, `exactValue` — what a dyadic, and so a finite double, is worth.
* `Dyadic.size_eq_div` — the size of a dyadic as a quotient of whole numbers, which is how it is
  rounded.
-/

open Float.Model Float.Model.UnpackedFloat

/-! ### Unpacked doubles and words -/

/-- The sign is that of a negative number. -/
def isNegative : Sign → Bool
  | .negative => true
  | .positive => false

/-- What an unpacked double stands for. -/
def Magnitude.ofUnpacked : UnpackedFloat → Magnitude
  | .notANumber => .notANumber
  | .infinity sign => .infinite (isNegative sign)
  | .zero sign => .finite ⟨isNegative sign, 0, -1074⟩
  | .finite sign m e _ => .finite ⟨isNegative sign, m, e⟩

/-- The highest bit. -/
theorem toNat_unpackSign (b : Word) : (unpackSign b).toNat = b.toNat / signBit % 2 := by
  unfold unpackSign
  simp [BitVec.extractLsb, BitVec.extractLsb', Nat.shiftRight_eq_div_pow, signBit]

/-- It is set for a negative number. -/
theorem isNegative_ofBitVec (b : BitVec 1) :
    isNegative (Sign.ofBitVec b) = (b.toNat == 1) := by
  have hlt := b.isLt
  unfold Sign.ofBitVec
  split
  next hzero => rw [hzero]; rfl
  next hone =>
    have hne : b.toNat ≠ 0 := fun h => hone (BitVec.eq_of_toNat_eq h)
    have htoNat : b.toNat = 1 := by omega
    rw [htoNat]
    rfl

/-- A word is read like the double that it makes up. -/
theorem ofBits_eq (b : Word) :
    Magnitude.ofBits b.toNat = .ofUnpacked (UnpackedFloat.unpack Format.binary64 b) := by
  have hsign : isNegative (Sign.ofBitVec (unpackSign b)) = (b.toNat / signBit % 2 == 1) := by
    rw [isNegative_ofBitVec, toNat_unpackSign]
  have hones : unpackExponent b = -1#11 ↔ b.toNat / leadingBit % 2048 = 2047 := by
    rw [← toNat_unpackExponent]
    exact BitVec.toNat_inj.symm
  have hzero : unpackExponent b = 0#11 ↔ b.toNat / leadingBit % 2048 = 0 := by
    rw [← toNat_unpackExponent]
    exact BitVec.toNat_inj.symm
  have hfraction : unpackMantissa b = 0#52 ↔ b.toNat % leadingBit = 0 := by
    rw [← toNat_unpackMantissa]
    exact BitVec.toNat_inj.symm
  unfold Magnitude.ofBits UnpackedFloat.unpack
  dsimp only
  rw [← hsign]
  by_cases hlarge : unpackExponent b = -1#11
  · rw [if_pos hlarge, if_pos (hones.mp hlarge)]
    by_cases hnone : unpackMantissa b = 0#52
    · rw [if_pos hnone, if_pos (hfraction.mp hnone)]
      rfl
    · rw [if_neg hnone, if_neg (mt hfraction.mpr hnone)]
      rfl
  · rw [if_neg hlarge, if_neg (mt hones.mpr hlarge)]
    by_cases hlow : unpackExponent b = 0#11
    · rw [if_pos hlow, if_pos (hzero.mp hlow)]
      -- Zero has no significand of its own in a double that is taken apart.
      by_cases hnone : unpackMantissa b = 0#52
      · rw [dif_pos hnone, hfraction.mp hnone]
        rfl
      · rw [dif_neg hnone, hlow, ← toNat_unpackMantissa]
        rfl
    · rw [if_neg hlow, if_neg (mt hzero.mpr hlow), ← toNat_significand, ← toNat_unpackExponent]
      rfl

/-- What the program reads off a word is what the library unpacks. -/
theorem ofFloat_eq (x : Float) : Magnitude.ofFloat x = .ofUnpacked x.toModel.unpack :=
  ofBits_eq x.toBits.toBitVec

variable {x : Float} {d : Dyadic}

/-- A finite double is zero, or it has a sign, a significand and an exponent. -/
theorem unpack_of_finite (h : Magnitude.ofFloat x = .finite d) :
    (∃ sign, x.toModel.unpack = .zero sign ∧ d = ⟨isNegative sign, 0, -1074⟩) ∨
    ∃ sign m e hm, x.toModel.unpack = .finite sign m e hm ∧ d = ⟨isNegative sign, m, e⟩ := by
  rw [ofFloat_eq] at h
  cases hx : x.toModel.unpack with
  | notANumber | infinity => simp [hx, Magnitude.ofUnpacked] at h
  | zero sign =>
    rw [hx] at h
    exact .inl ⟨sign, rfl, (Magnitude.finite.inj h).symm⟩
  | finite sign m e hm =>
    rw [hx] at h
    exact .inr ⟨sign, m, e, hm, rfl, (Magnitude.finite.inj h).symm⟩

/-! ### The absolute value and the sign -/

/-- The exponent of a finite double. -/
theorem exponent_le {b : Word} {sign : Sign} {m : Nat} {e : Int} {hm : 0 < m}
    (h : UnpackedFloat.unpack Format.binary64 b = .finite sign m e hm) : e ≤ 971 := by
  have hlt := (unpackExponent b).isLt
  have hbits : Magnitude.ofBits b.toNat = .finite ⟨isNegative sign, m, e⟩ := by
    rw [ofBits_eq, h]
    rfl
  unfold Magnitude.ofBits at hbits
  dsimp only at hbits
  split at hbits
  next => split at hbits <;> cases hbits
  -- The largest exponent field is that of infinities, so one less is the largest of a number.
  next hlarge =>
    split at hbits
    next =>
      obtain ⟨-, -, rfl⟩ := Dyadic.mk.inj (Magnitude.finite.inj hbits)
      decide
    next =>
      obtain ⟨-, -, rfl⟩ := Dyadic.mk.inj (Magnitude.finite.inj hbits)
      omega

/-- The absolute value differs in its sign only. -/
theorem ofFloat_abs (h : Magnitude.ofFloat x = .finite d) :
    Magnitude.ofFloat x.abs = .finite { d with negative := false } := by
  obtain ⟨sign, hx, rfl⟩ | ⟨sign, m, e, hm, hx, rfl⟩ := unpack_of_finite h
  · have habs : x.abs.toModel = .pack (.zero .positive) := by
      show Float.Model.pack x.toModel.unpack.abs = _
      rw [hx]
      rfl
    rw [ofFloat_eq, habs]
    rfl
  · have habs : x.abs.toModel = .pack (.finite .positive m e hm) := by
      show Float.Model.pack x.toModel.unpack.abs = _
      rw [hx]
      rfl
    have hcanonical : lastExponent m e = e := by
      have hx' := isCanonical_unpack x.toModel.toBits.toBitVec
      rwa [show UnpackedFloat.unpack _ _ = _ from hx] at hx'
    rw [ofFloat_eq, habs, Float.Model.unpack, Float.Model.pack]
    dsimp only
    rw [unpack_pack hm hcanonical (exponent_le hx)]
    rfl

/-- A finite double is below zero if it has a sign and is not zero. -/
theorem lt_zero_iff (h : Magnitude.ofFloat x = .finite d) :
    x < 0.0 ↔ d.negative = true ∧ d.significand ≠ 0 := by
  have hzero : (0.0 : Float).toModel.unpack = .zero .positive := rfl
  have hlt : x < 0.0 ↔ UnpackedFloat.lt x.toModel.unpack (.zero .positive) = true := by
    rw [← hzero]
    show decide (x.toModel < (0.0 : Float).toModel) = true ↔ _
    rw [decide_eq_true_iff]
    rfl
  rw [hlt]
  obtain ⟨sign, hx, rfl⟩ | ⟨sign, m, e, hm, hx, rfl⟩ := unpack_of_finite h
  · rw [hx]
    cases sign <;> simp [UnpackedFloat.lt, UnpackedFloat.compare]
  · rw [hx]
    cases sign <;> simp [UnpackedFloat.lt, UnpackedFloat.compare, isNegative, hm.ne']

/-! ### Values -/

/-- The size of a dyadic without its sign. -/
def Dyadic.size (d : Dyadic) : ℚ :=
  Decimal.scaled d.significand d.exponent

/-- What a dyadic is worth. -/
def Dyadic.toRat (d : Dyadic) : ℚ :=
  if d.negative then -d.size else d.size

/-- What a finite double is worth. -/
def exactValue (x : Float) : ℚ :=
  match Magnitude.ofFloat x with
  | .finite d => d.toRat
  | _ => 0

/-- A finite double is a dyadic. -/
theorem isFinite_iff : isFinite x = true ↔ ∃ d, Magnitude.ofFloat x = .finite d := by
  unfold isFinite
  split
  next d hx => exact iff_of_true rfl ⟨d, hx⟩
  next hx => exact iff_of_false Bool.false_ne_true fun ⟨d, h⟩ => hx d h

theorem exactValue_of_finite (h : Magnitude.ofFloat x = .finite d) : exactValue x = d.toRat := by
  rw [exactValue, h]

/-- A size is not negative. -/
theorem Dyadic.size_nonneg (d : Dyadic) : 0 ≤ d.size :=
  Decimal.scaled_nonneg _ _

/-- The size is the absolute value. -/
theorem Dyadic.abs_toRat (d : Dyadic) : |d.toRat| = d.size := by
  unfold toRat
  split
  · rw [abs_neg, abs_of_nonneg d.size_nonneg]
  · exact abs_of_nonneg d.size_nonneg

/-- Only a significand of zero is worth nothing. -/
theorem Dyadic.size_eq_zero_iff (d : Dyadic) : d.size = 0 ↔ d.significand = 0 := by
  have hpos : (2 : ℚ) ^ d.exponent ≠ 0 := (zpow_pos two_pos _).ne'
  simp [size, Decimal.scaled, hpos]

/-- A dyadic is below zero if it has a sign and is not zero. -/
theorem Dyadic.toRat_lt_zero_iff (d : Dyadic) :
    d.toRat < 0 ↔ d.negative = true ∧ d.significand ≠ 0 := by
  have hsize : d.significand ≠ 0 ↔ 0 < d.size := by
    rw [d.size_nonneg.lt_iff_ne', ne_eq, ne_eq, d.size_eq_zero_iff]
  rw [hsize, toRat]
  split
  next hnegative => simp [hnegative]
  next hpositive => simpa [hpositive] using d.size_nonneg

/-- The sign of a finite double is that of its value. -/
theorem lt_zero_iff_exactValue (h : isFinite x = true) : x < 0.0 ↔ exactValue x < 0 := by
  obtain ⟨d, hx⟩ := isFinite_iff.mp h
  rw [lt_zero_iff hx, exactValue_of_finite hx, d.toRat_lt_zero_iff]

/-- The size as a quotient of whole numbers. -/
theorem Dyadic.size_eq_div (d : Dyadic) :
    d.size = (d.significand <<< d.exponent.toNat : Nat) / (1 <<< (-d.exponent).toNat : Nat) := by
  unfold size Decimal.scaled
  rw [Nat.shiftLeft_eq, Nat.one_shiftLeft]
  push_cast
  obtain hneg | hpos := le_total d.exponent 0
  · obtain ⟨k, hk⟩ := Int.eq_ofNat_of_zero_le (Int.neg_nonneg_of_nonpos hneg)
    have hexponent : d.exponent = -k := by omega
    simp [hexponent, div_eq_mul_inv]
  · obtain ⟨k, hk⟩ := Int.eq_ofNat_of_zero_le hpos
    simp [hk]

end Launcher.Decimal
