import Launcher.Proofs.Decimal.Digits

namespace Launcher.Decimal

/-!
# The words of doubles

A double is a word of sixty-four bits with three fields, and taking it apart is a function of the
library's model of floating point. Here the fields are expressed by division and remainder, which is
how the program reads them, and the word of a normal double is put together again from them.

* `toNat_unpackMantissa`, `toNat_unpackExponent` — the fields of a word as numbers.
* `packComponents_fields` — a word is made of its three fields.
* `toNat_significand`, `log2_significand` — the significand with the bit that is not written.
* `pack_unpack` — the word of a normal double is put together again as it was.
* `ofFloat_ofBits` — so a normal double stands for the value of its word.

Doubles below the normal ones are not needed here; `Decimal.unpack_pack` covers them.
-/

open Float.Model Float.Model.UnpackedFloat

/-- A word of sixty-four bits. -/
abbrev Word : Type := BitVec Format.binary64.numBits

/-! ### Fields -/

/-- The lowest fifty-two bits. -/
theorem toNat_unpackMantissa (b : Word) : (unpackMantissa b).toNat = b.toNat % leadingBit := by
  unfold unpackMantissa
  simp [BitVec.extractLsb, BitVec.extractLsb', leadingBit]

/-- The eleven bits above them. -/
theorem toNat_unpackExponent (b : Word) :
    (unpackExponent b).toNat = b.toNat / leadingBit % 2048 := by
  unfold unpackExponent
  simp [BitVec.extractLsb, BitVec.extractLsb', Nat.shiftRight_eq_div_pow, leadingBit]

/-- A sign is one bit. -/
theorem toBitVec_ofBitVec (b : BitVec 1) : (Sign.ofBitVec b).toBitVec = b := by
  obtain hb | hb : b = 0#1 ∨ b = 1#1 := by
    have hlt := b.isLt
    by_cases hzero : b.toNat = 0
    · exact .inl (BitVec.eq_of_toNat_eq hzero)
    · exact .inr (BitVec.eq_of_toNat_eq (by simp; omega))
  · rw [hb]
    rfl
  · rw [hb]
    rfl

/-- A word is put together from its three fields. -/
theorem packComponents_fields (b : Word) :
    packComponents Format.binary64 (Sign.ofBitVec (unpackSign b)) (unpackExponent b)
      (unpackMantissa b) = b := by
  have hhigh : BitVec.extractLsb' 63 1 b ++ BitVec.extractLsb' 52 11 b =
      BitVec.extractLsb' 52 12 b :=
    BitVec.extractLsb'_append_extractLsb'_eq_extractLsb' rfl
  have hall : BitVec.extractLsb' 52 12 b ++ BitVec.extractLsb' 0 52 b =
      BitVec.extractLsb' 0 64 b :=
    BitVec.extractLsb'_append_extractLsb'_eq_extractLsb' rfl
  unfold packComponents
  rw [toBitVec_ofBitVec]
  show BitVec.extractLsb' 63 1 b ++ BitVec.extractLsb' 52 11 b ++ BitVec.extractLsb' 0 52 b = b
  rw [hhigh, hall]
  exact BitVec.extractLsb'_eq_self

/-! ### Significands -/

/-- A number of fifty-three bits. -/
theorem log2_of_bounds {r : Nat} (hlow : 2 ^ 52 ≤ r) (hhigh : r < 2 ^ 53) : r.log2 = 52 := by
  have hr : r ≠ 0 := by omega
  have hle := (Nat.le_log2 hr).mpr hlow
  have hlt := (Nat.log2_lt hr).mpr hhigh
  omega

/-- A bit before fifty-two others is worth a power of two. -/
theorem toNat_leading_append (m : BitVec 52) : (1#1 ++ m).toNat = 2 ^ 52 + m.toNat := by
  rw [BitVec.toNat_append, ← Nat.shiftLeft_add_eq_or_of_lt m.isLt]
  rfl

/-- With it there are fifty-three bits. -/
theorem log2_leading_append (m : BitVec 52) : (1#1 ++ m).toNat.log2 = 52 := by
  have hm := m.isLt
  rw [toNat_leading_append]
  exact log2_of_bounds (by omega) (by omega)

/-! ### Normal doubles -/

/-- The word is that of a normal double: its exponent is neither the smallest nor the largest. -/
structure IsNormal (b : Word) : Prop where
  pos : 0 < b.toNat / leadingBit % 2048
  lt : b.toNat / leadingBit % 2048 < 2047

variable {b : Word}

/-- The significand with its leading bit. -/
theorem toNat_significand (b : Word) :
    (1#1 ++ unpackMantissa b).toNat = leadingBit + b.toNat % leadingBit := by
  rw [toNat_leading_append, toNat_unpackMantissa]
  rfl

/-- A significand with its leading bit is not zero. -/
theorem significand_pos (b : Word) : 0 < (1#1 ++ unpackMantissa b).toNat := by
  rw [toNat_significand]
  exact Nat.lt_of_lt_of_le (by decide) (Nat.le_add_right _ _)

/-- It has fifty-three bits. -/
theorem log2_significand (b : Word) : (leadingBit + b.toNat % leadingBit).log2 = 52 := by
  rw [← toNat_significand]
  exact log2_leading_append _

/-- The word of a normal double is taken apart into sign, significand and exponent. -/
theorem unpack_of_isNormal (h : IsNormal b) :
    UnpackedFloat.unpack Format.binary64 b =
      .finite (Sign.ofBitVec (unpackSign b)) (1#1 ++ unpackMantissa b).toNat
        (((unpackExponent b).toNat : Int) - 1075) (significand_pos b) := by
  have hexponent := toNat_unpackExponent b
  have hones : unpackExponent b ≠ -1#_ := by
    intro heq
    rw [heq] at hexponent
    exact absurd hexponent.symm (Nat.ne_of_lt h.lt)
  have hzero : unpackExponent b ≠ 0#_ := by
    intro heq
    rw [heq] at hexponent
    exact absurd hexponent (Nat.ne_of_lt h.pos)
  unfold UnpackedFloat.unpack
  dsimp only
  rw [if_neg hones, if_neg hzero]
  rfl

/-- The word of a normal double is put together again as it was. -/
theorem pack_unpack (h : IsNormal b) :
    UnpackedFloat.pack Format.binary64 (UnpackedFloat.unpack Format.binary64 b) = b := by
  have hexponent := toNat_unpackExponent b
  have hbiased : (((unpackExponent b).toNat : Int) - 1075 + Format.binary64.exponentBias +
      Format.binary64.mantissaBitsWithoutImplicit).toNat = (unpackExponent b).toNat := by
    show (((unpackExponent b).toNat : Int) - 1075 + 1023 + 52).toNat = _
    omega
  have hfinite : ¬2 ^ Format.binary64.exponentBits ≤ (unpackExponent b).toNat + 1 := by
    show ¬2048 ≤ (unpackExponent b).toNat + 1
    have hlt := h.lt
    omega
  have hnormal : (1#1 ++ unpackMantissa b).toNat.log2 + 1 = Format.binary64.mantissaBits := by
    rw [toNat_significand, log2_significand]
    rfl
  -- The leading bit is dropped when the fraction is written.
  have hmantissa : BitVec.ofNat Format.binary64.mantissaBitsWithoutImplicit
      (1#1 ++ unpackMantissa b).toNat = unpackMantissa b := by
    apply BitVec.eq_of_toNat_eq
    rw [BitVec.toNat_ofNat, toNat_significand, toNat_unpackMantissa]
    show (leadingBit + b.toNat % leadingBit) % leadingBit = b.toNat % leadingBit
    rw [Nat.add_mod_left, Nat.mod_mod]
  rw [unpack_of_isNormal h]
  unfold UnpackedFloat.pack
  simp only [hbiased, if_neg hfinite, if_pos hnormal, hmantissa, BitVec.ofNat_toNat,
    BitVec.setWidth_eq]
  exact packComponents_fields b

/-- A normal double stands for the value of its word. -/
theorem ofFloat_ofBits {n : Nat} (hn : n < 2 ^ 64) (hpos : 0 < n / leadingBit % 2048)
    (hlt : n / leadingBit % 2048 < 2047) :
    Magnitude.ofFloat (Float.ofBits (UInt64.ofNat n)) = .ofBits n := by
  have htoNat : (UInt64.ofNat n).toBitVec.toNat = n := by
    show n % 2 ^ 64 = n
    exact Nat.mod_eq_of_lt hn
  have hnormal : IsNormal (UInt64.ofNat n).toBitVec := ⟨by rwa [htoNat], by rwa [htoNat]⟩
  have hbits : (Float.ofBits (UInt64.ofNat n)).toBits.toBitVec = (UInt64.ofNat n).toBitVec :=
    pack_unpack hnormal
  unfold Magnitude.ofFloat
  rw [← UInt64.toNat_toBitVec, hbits, htoNat]

end Launcher.Decimal
