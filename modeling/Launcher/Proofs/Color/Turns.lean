import Launcher.Color.Basic
import Mathlib.Data.Rat.Floor
import Mathlib.Tactic.IntervalCases
import Mathlib.Tactic.Linarith
import Mathlib.Tactic.Ring

namespace Launcher.Color

/-!
# The hue of components

The hue of a color is found by its largest component, and the components are found again by the
sector of the circle in which the hue lies. The two formulas do not cut the circle at the same
places: three arcs for the largest component against six sectors. They meet at the even sixths: past
one of these the second component rises, before it falls, and which of the two it is says which
component is the smallest.

* `max_rat`, `abs_rat`, `modulo_rat`, `floor_rat`, ... — what the operations are on fractions.
* `tent_eq` — how the second component rises and falls along the hue.
* `rise_after`, `rise_before` — the components on either side of an even sixth of the circle.
* `IsSpan`, `IsTurn` — the smallest and the largest of three components, and their hue.
* `IsSpan.exists_isTurn_red` and its companions — one lemma for each largest component, in two cases
  for the smallest.
* `IsSpan.exists_isTurn` — components that are not all the same have a hue, and it gives them back.
-/

section
variable {x y : ℚ}

/-! ### Formulas over fractions -/

theorem eq_rat_iff : Scalar.eq x y = true ↔ x = y := beq_iff_eq

theorem lt_rat_iff : Scalar.lt x y = true ↔ x < y := decide_eq_true_iff

theorem max_rat (x y : ℚ) : Scalar.max x y = max x y := by
  unfold Scalar.max
  by_cases h : x < y
  · rw [if_pos (lt_rat_iff.mpr h), max_eq_right h.le]
  · rw [if_neg (mt lt_rat_iff.mp h), max_eq_left (not_lt.mp h)]

theorem min_rat (x y : ℚ) : Scalar.min x y = min x y := by
  unfold Scalar.min
  by_cases h : y < x
  · rw [if_pos (lt_rat_iff.mpr h), min_eq_right h.le]
  · rw [if_neg (mt lt_rat_iff.mp h), min_eq_left (not_lt.mp h)]

theorem abs_rat (x : ℚ) : Scalar.abs x = |x| := by
  show (if x < 0 then -x else x) = |x|
  split
  next h => exact (abs_of_neg h).symm
  next h => exact (abs_of_nonneg (not_lt.mp h)).symm

/-- What lies between zero and one is not clamped. -/
theorem clamp_rat (h : 0 ≤ x ∧ x ≤ 1) : Scalar.clamp x = x := by
  have hlow : ¬Scalar.lt x (Scalar.ofNat 0) = true := mt lt_rat_iff.mp (not_lt.mpr h.1)
  have hhigh : ¬Scalar.lt (Scalar.ofNat 1) x = true :=
    mt lt_rat_iff.mp (not_lt.mpr (by simpa [Scalar.ofNat] using h.2))
  rw [Scalar.clamp, if_neg hlow, if_neg hhigh]

/-- The remainder is what is left of a multiple just below. -/
theorem modulo_rat (hy : 0 < y) (k : ℤ) (h : k * y ≤ x ∧ x < (k + 1) * y) :
    Scalar.modulo x y = x - k * y := by
  have hfloor : ⌊x / y⌋ = k := by
    rw [Int.floor_eq_iff, le_div_iff₀ hy, div_lt_iff₀ hy]
    exact h
  show x - y * (⌊x / y⌋ : ℤ) = x - k * y
  rw [hfloor, mul_comm]

/-- What is less than the divisor is its own remainder. -/
theorem modulo_of_lt (h : 0 ≤ x ∧ x < y) : Scalar.modulo x y = x := by
  have := modulo_rat (h.1.trans_lt h.2) 0 (x := x) (by simpa using h)
  simpa using this

/-- A hue within the circle is its own remainder. -/
theorem modulo_sixths {t : ℚ} (h : 0 ≤ t ∧ t < 6) :
    Scalar.modulo (60 * t) (Scalar.ofNat 360) = 60 * t :=
  modulo_of_lt ⟨by linarith, show 60 * t < 360 by linarith⟩

/-- The whole number just below. -/
theorem floor_rat {n : ℕ} (h : n ≤ x ∧ x < n + 1) : Scalar.floor x = n := by
  have hfloor : ⌊x⌋ = (n : ℤ) := Int.floor_eq_iff.mpr (by exact_mod_cast h)
  show ⌊x⌋.toNat = n
  rw [hfloor, Int.toNat_natCast]

theorem round_natCast (n : ℕ) : Scalar.round (n : ℚ) = n := by
  have hfloor : ⌊(n : ℚ) + 1 / 2⌋ = (n : ℤ) := by
    rw [Int.floor_eq_iff]
    push_cast
    constructor <;> linarith
  show ⌊(n : ℚ) + 1 / 2⌋.toNat = n
  rw [hfloor, Int.toNat_natCast]

end

/-! ### Components along the hue -/

section
variable {x t spread : ℚ} {k : ℕ}

/-- How far a hue of `t` sixths of the circle is from the nearest even sixth. -/
def tent (t : ℚ) : ℚ :=
  1 - |Scalar.modulo t 2 - 1|

/-- Up to one sixth from an even one, the distance is what it is. -/
theorem tent_eq (k : ℤ) (h : |t - 2 * k| ≤ 1) : tent t = |t - 2 * k| := by
  have hbounds := abs_le.mp h
  unfold tent
  -- Past the even sixth the multiple below is that one, before it the one before.
  rcases le_or_gt 0 (t - 2 * k) with hk | hk
  · rw [modulo_rat (by norm_num) k (by constructor <;> linarith), abs_of_nonneg hk,
      abs_of_nonpos (by linarith)]
    ring
  · rw [modulo_rat (by norm_num) (k - 1) (by push_cast; constructor <;> linarith), abs_of_neg hk,
      abs_of_nonneg (by push_cast; linarith)]
    push_cast
    ring

/-- The components at a hue of `t` sixths of the circle, above the smallest of them. -/
def rise (t spread : ℚ) : ℚ × ℚ × ℚ :=
  sector (Scalar.floor t) spread (spread * tent t)

/-- Components that are all the same do not rise. -/
theorem rise_zero : rise 0 0 = (0, 0, 0) := by
  unfold rise
  rw [floor_rat (n := 0) (by norm_num), zero_mul]
  rfl

/-- Past an even sixth the second component rises, up to the next sixth itself. -/
theorem rise_after (hk : k < 3) (hspread : 0 < spread) (hx : 0 ≤ x ∧ x ≤ spread) :
    rise (2 * k + x / spread) spread = sector (2 * k) spread x := by
  have hx₀ : 0 ≤ x / spread := div_nonneg hx.1 hspread.le
  have hx₁ : x / spread ≤ 1 := (div_le_one hspread).mpr hx.2
  have htent : spread * tent (2 * k + x / spread) = x := by
    have hdist : 2 * (k : ℚ) + x / spread - 2 * (k : ℤ) = x / spread := by push_cast; ring
    rw [tent_eq k (by rwa [hdist, abs_of_nonneg hx₀]), hdist, abs_of_nonneg hx₀,
      mul_div_cancel₀ x hspread.ne']
  unfold rise
  rw [htent]
  rcases hx.2.lt_or_eq with hlt | rfl
  · have hlt₁ : x / spread < 1 := (div_lt_one hspread).mpr hlt
    rw [floor_rat (n := 2 * k) (by push_cast; constructor <;> linarith)]
  · -- Where the two largest are equal, the next sector begins, and it has them in the same places.
    have hone : x / x = 1 := div_self hspread.ne'
    rw [floor_rat (n := 2 * k + 1) (by push_cast; constructor <;> linarith)]
    interval_cases k <;> rfl

/-- Before an even sixth it falls. -/
theorem rise_before (hspread : 0 < spread) (hx : 0 < x ∧ x ≤ spread) :
    rise (2 * (k + 1) - x / spread) spread = sector (2 * k + 1) spread x := by
  have hx₀ : 0 < x / spread := div_pos hx.1 hspread
  have hx₁ : x / spread ≤ 1 := (div_le_one hspread).mpr hx.2
  have htent : spread * tent (2 * (k + 1) - x / spread) = x := by
    have hdist : 2 * ((k : ℚ) + 1) - x / spread - 2 * ((k + 1 : ℕ) : ℤ) = -(x / spread) := by
      push_cast; ring
    rw [tent_eq (k + 1 : ℕ) (by rwa [hdist, abs_neg, abs_of_pos hx₀]), hdist, abs_neg,
      abs_of_pos hx₀, mul_div_cancel₀ x hspread.ne']
  unfold rise
  rw [htent, floor_rat (n := 2 * k + 1) (by push_cast; constructor <;> linarith)]

end

/-! ### The hue of components -/

section
variable {x r g b low high spread : ℚ} {k : ℕ}

/-- `low` is the smallest of three components and `high` is the largest. -/
structure IsSpan (r g b low high : ℚ) : Prop where
  red : low ≤ r ∧ r ≤ high
  green : low ≤ g ∧ g ≤ high
  blue : low ≤ b ∧ b ≤ high
  low_attained : low = r ∨ low = g ∨ low = b
  high_attained : high = r ∨ high = g ∨ high = b

/-- The smallest and the largest of three components. -/
theorem isSpan_min_max (r g b : ℚ) : IsSpan r g b (min (min r g) b) (max (max r g) b) := by
  constructor <;> grind

/-- `t` sixths of the circle are the hue of components between `low` and `high`: so says the hue in
degrees, and the components at that hue are theirs. -/
structure IsTurn (r g b low high t : ℚ) : Prop where
  bounds : 0 ≤ t ∧ t < 6
  hue : hueOf r g b high (high - low) = 60 * t
  components : rise t (high - low) = (r - low, g - low, b - low)

/-- The hue of components of which the second rises. -/
theorem isTurn_after (hk : k < 3) (h : low < high) (hx : 0 ≤ x ∧ x ≤ high - low)
    (hhue : hueOf r g b high (high - low) = 60 * (2 * k + x / (high - low)))
    (hsector : sector (2 * k) (high - low) x = (r - low, g - low, b - low)) :
    IsTurn r g b low high (2 * k + x / (high - low)) := by
  have hspread : 0 < high - low := sub_pos.mpr h
  have hx₀ : 0 ≤ x / (high - low) := div_nonneg hx.1 hspread.le
  have hx₁ : x / (high - low) ≤ 1 := (div_le_one hspread).mpr hx.2
  have hk₂ : (k : ℚ) ≤ 2 := by exact_mod_cast Nat.le_of_lt_succ hk
  exact ⟨⟨by positivity, by linarith⟩, hhue, by rw [rise_after hk hspread hx, hsector]⟩

/-- The hue of components of which the second falls. -/
theorem isTurn_before (hk : k < 3) (h : low < high) (hx : 0 < x ∧ x ≤ high - low)
    (hhue : hueOf r g b high (high - low) = 60 * (2 * (k + 1) - x / (high - low)))
    (hsector : sector (2 * k + 1) (high - low) x = (r - low, g - low, b - low)) :
    IsTurn r g b low high (2 * (k + 1) - x / (high - low)) := by
  have hspread : 0 < high - low := sub_pos.mpr h
  have hx₀ : 0 < x / (high - low) := div_pos hx.1 hspread
  have hx₁ : x / (high - low) ≤ 1 := (div_le_one hspread).mpr hx.2
  have hk₂ : (k : ℚ) ≤ 2 := by exact_mod_cast Nat.le_of_lt_succ hk
  have hk₀ : 0 ≤ (k : ℚ) := k.cast_nonneg
  exact ⟨⟨by linarith, by linarith⟩, hhue, by rw [rise_before hspread hx, hsector]⟩

/-- If red is the largest, the hue lies around the beginning of the circle. -/
theorem hueOf_red (hr : high = r) :
    hueOf r g b high spread = 60 * Scalar.modulo ((g - b) / spread) 6 := by
  rw [hueOf, if_pos (eq_rat_iff.mpr hr)]
  rfl

/-- If green is, it lies around a third of it. -/
theorem hueOf_green (hr : high ≠ r) (hg : high = g) :
    hueOf r g b high spread = 60 * ((b - r) / spread + 2) := by
  rw [hueOf, if_neg (mt eq_rat_iff.mp hr), if_pos (eq_rat_iff.mpr hg)]
  rfl

/-- If blue is, it lies around two thirds. -/
theorem hueOf_blue (hr : high ≠ r) (hg : high ≠ g) :
    hueOf r g b high spread = 60 * ((r - g) / spread + 4) := by
  rw [hueOf, if_neg (mt eq_rat_iff.mp hr), if_neg (mt eq_rat_iff.mp hg)]
  rfl

namespace IsSpan

variable (hs : IsSpan r g b low high) (h : low < high)
include hs h

/-- Components of which red is the largest. -/
theorem exists_isTurn_red (hr : high = r) : ∃ t, IsTurn r g b low high t := by
  have hspread : 0 < high - low := sub_pos.mpr h
  obtain ⟨-, ⟨hg₀, hg₁⟩, ⟨hb₀, hb₁⟩, hlow, -⟩ := hs
  rcases le_or_gt b g with hgb | hbg
  · -- Blue is the smallest: green rises past the beginning of the circle.
    obtain rfl : low = b := by rcases hlow with h | h | h <;> linarith
    have hquot : 0 ≤ (g - low) / (high - low) ∧ (g - low) / (high - low) < 6 :=
      ⟨div_nonneg (by linarith) hspread.le, by rw [div_lt_iff₀ hspread]; linarith⟩
    have hx : 0 ≤ g - low ∧ g - low ≤ high - low := by constructor <;> linarith
    refine ⟨_, isTurn_after (k := 0) (by decide) h hx ?_ ?_⟩
    · rw [hueOf_red hr, modulo_of_lt hquot]
      simp
    · simp [sector, Scalar.ofNat, hr]
  · obtain rfl : low = g := by rcases hlow with h | h | h <;> linarith
    -- The quotient is below zero, so the hue is at the end of the circle.
    have hquot : (-1 : ℤ) * 6 ≤ (low - b) / (high - low) ∧
        (low - b) / (high - low) < ((-1 : ℤ) + 1) * 6 := by
      rw [le_div_iff₀ hspread, div_lt_iff₀ hspread]
      push_cast
      constructor <;> linarith
    have hx : 0 < b - low ∧ b - low ≤ high - low := by constructor <;> linarith
    refine ⟨_, isTurn_before (k := 2) (by decide) h hx ?_ ?_⟩
    · rw [hueOf_red hr, modulo_rat (by norm_num) (-1) hquot]
      push_cast
      ring
    · simp [sector, Scalar.ofNat, hr]

/-- Components of which green is the largest. -/
theorem exists_isTurn_green (hr : high ≠ r) (hg : high = g) : ∃ t, IsTurn r g b low high t := by
  obtain ⟨⟨hr₀, hr₁⟩, -, ⟨hb₀, hb₁⟩, hlow, -⟩ := hs
  rcases le_or_gt r b with hrb | hbr
  · obtain rfl : low = r := by rcases hlow with h | h | h <;> linarith
    have hx : 0 ≤ b - low ∧ b - low ≤ high - low := by constructor <;> linarith
    refine ⟨_, isTurn_after (k := 1) (by decide) h hx ?_ ?_⟩
    · rw [hueOf_green hr hg]
      push_cast
      ring
    · simp [sector, Scalar.ofNat, hg]
  · obtain rfl : low = b := by rcases hlow with h | h | h <;> linarith
    have hx : 0 < r - low ∧ r - low ≤ high - low := by constructor <;> linarith
    refine ⟨_, isTurn_before (k := 0) (by decide) h hx ?_ ?_⟩
    · rw [hueOf_green hr hg]
      push_cast
      ring
    · simp [sector, Scalar.ofNat, hg]

/-- Components of which blue is the largest. -/
theorem exists_isTurn_blue (hr : high ≠ r) (hg : high ≠ g) : ∃ t, IsTurn r g b low high t := by
  obtain ⟨⟨hr₀, hr₁⟩, ⟨hg₀, hg₁⟩, -, hlow, hhigh⟩ := hs
  obtain rfl : high = b := (hhigh.resolve_left hr).resolve_left hg
  rcases le_or_gt g r with hgr | hrg
  · obtain rfl : low = g := by rcases hlow with h | h | h <;> linarith
    have hx : 0 ≤ r - low ∧ r - low ≤ high - low := by constructor <;> linarith
    refine ⟨_, isTurn_after (k := 2) (by decide) h hx ?_ ?_⟩
    · rw [hueOf_blue hr hg]
      push_cast
      ring
    · simp [sector, Scalar.ofNat]
  · obtain rfl : low = r := by rcases hlow with h | h | h <;> linarith
    have hx : 0 < g - low ∧ g - low ≤ high - low := by constructor <;> linarith
    refine ⟨_, isTurn_before (k := 1) (by decide) h hx ?_ ?_⟩
    · rw [hueOf_blue hr hg]
      push_cast
      ring
    · simp [sector, Scalar.ofNat]

/-- Components that are not all the same have a hue. -/
theorem exists_isTurn : ∃ t, IsTurn r g b low high t := by
  by_cases hr : high = r
  · exact hs.exists_isTurn_red h hr
  by_cases hg : high = g
  · exact hs.exists_isTurn_green h hr hg
  · exact hs.exists_isTurn_blue h hr hg

end IsSpan

end

end Launcher.Color
