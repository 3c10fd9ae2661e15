import Launcher.Proofs.Color.Turns
import Mathlib.Data.Option.NAry

namespace Launcher.Color

/-!
# The two models of colors are inverse to each other

A color of three bytes is turned into hue, saturation and lightness and back. The program does so in
floating point; its formulas are written over any scalars, and here they are read over exact
fractions, where only the components are rounded to bytes at the end. That the color comes back is
then a statement about the formulas themselves.

* `byteOfUnit_unitOfByte` — a byte comes back from its component.
* `Rgb.spread_le_room` — components differ by no more than their lightness leaves room for, so the
  saturation is at most one.
* `Hsl.toRgb_of_rise` — the color of a hue, a saturation and a lightness, by the components along
  the hue.
* `Rgb.IsModel` — what is to be shown of the hue, saturation and lightness of a color. Gray colors
  have no hue and are a case of their own (`Rgb.isModel_gray`); for all others the hue is found by
  `IsSpan.exists_isTurn` (`Rgb.exists_isModel_colored`).
* `Checked` — fractions with which a division by zero shows, since fractions alone would hide it.
* `Rgb.toHsl_checked` — in the change of model nothing is divided by zero.
* `toRgb_toHsl` — every color comes back from its hue, saturation and lightness.
-/

/-! ### Components -/

/-- A component is a fraction between zero and one. -/
theorem unitOfByte_bounds (b : UInt8) : 0 ≤ (unitOfByte b : ℚ) ∧ (unitOfByte b : ℚ) ≤ 1 := by
  have hb : (b.toNat : ℚ) ≤ 255 := by
    have := b.toNat_lt
    exact_mod_cast Nat.le_of_lt_succ this
  show 0 ≤ (b.toNat : ℚ) / 255 ∧ (b.toNat : ℚ) / 255 ≤ 1
  exact ⟨by positivity, by rwa [div_le_one (by norm_num)]⟩

/-- A byte comes back from its component. -/
theorem byteOfUnit_unitOfByte (b : UInt8) : byteOfUnit (unitOfByte b : ℚ) = b := by
  have hvalue : (unitOfByte b : ℚ) * 255 = b.toNat := by
    show (b.toNat : ℚ) / 255 * 255 = b.toNat
    exact div_mul_cancel₀ _ (by norm_num)
  rw [byteOfUnit, clamp_rat (unitOfByte_bounds b)]
  show UInt8.ofNat (Scalar.round ((unitOfByte b : ℚ) * 255)) = b
  rw [hvalue, round_natCast, UInt8.ofNat_toNat]

/-! ### Lightness and saturation -/

section
variable {α : Type} [Scalar α]

/-- How far apart the largest and the smallest component can be at a lightness. -/
def room (l : α) : α :=
  Scalar.ofNat 1 - Scalar.abs (Scalar.ofNat 2 * l - Scalar.ofNat 1)

namespace Rgb

/-- The smallest component. -/
def lowest (c : Rgb) : α :=
  Scalar.min (Scalar.min (unitOfByte c.red) (unitOfByte c.green)) (unitOfByte c.blue)

/-- The largest component. -/
def highest (c : Rgb) : α :=
  Scalar.max (Scalar.max (unitOfByte c.red) (unitOfByte c.green)) (unitOfByte c.blue)

/-- How far apart they are. -/
def spread (c : Rgb) : α :=
  c.highest - c.lowest

/-- How light a color is, between zero and one. -/
def lightness (c : Rgb) : α :=
  (c.highest + c.lowest) / Scalar.ofNat 2

/-- The hue of a color that is not gray, in degrees. -/
def hue (c : Rgb) : α :=
  Scalar.modulo
    (hueOf (unitOfByte c.red) (unitOfByte c.green) (unitOfByte c.blue) c.highest c.spread)
    (Scalar.ofNat 360)

/-- How much of the room between its components such a color takes. -/
def saturation (c : Rgb) : α :=
  c.spread / room c.lightness

variable {c : Rgb}

/-- A color whose components are all the same has neither hue nor saturation. -/
theorem toHsl_gray (h : Scalar.eq c.spread (Scalar.ofNat 0 : α) = true) :
    c.toHsl = (⟨Scalar.ofNat 0, Scalar.ofNat 0, c.lightness * Scalar.ofNat 100⟩ : Hsl α) :=
  if_pos h

/-- Any other has both. -/
theorem toHsl_colored (h : ¬Scalar.eq c.spread (Scalar.ofNat 0 : α) = true) :
    c.toHsl =
      (⟨c.hue, c.saturation * Scalar.ofNat 100, c.lightness * Scalar.ofNat 100⟩ : Hsl α) :=
  if_neg h

end Rgb

end

section
variable {t r g b low high : ℚ}

theorem room_rat (l : ℚ) : room l = 1 - |2 * l - 1| := by
  unfold room
  rw [abs_rat]
  simp [Scalar.ofNat]

/-- The components lie between zero and one, so their lightness bounds how far apart they are. -/
theorem le_room (hlow : 0 ≤ low) (hhigh : high ≤ 1) : high - low ≤ room ((high + low) / 2) := by
  have habs : |2 * ((high + low) / 2) - 1| ≤ 1 - (high - low) :=
    abs_le.mpr (by constructor <;> linarith)
  rw [room_rat]
  linarith

/-- The components at `t` sixths of the circle, with what they have in common, are the color. -/
theorem Hsl.toRgb_of_rise {s l : ℚ} (ht : 0 ≤ t ∧ t < 6) (hs : 0 ≤ s ∧ s ≤ 1) (hl : 0 ≤ l ∧ l ≤ 1)
    (hrise : rise t (room l * s) = (r - low, g - low, b - low)) (hlow : l - room l * s / 2 = low) :
    (⟨60 * t, s * 100, l * 100⟩ : Hsl ℚ).toRgb = ⟨byteOfUnit r, byteOfUnit g, byteOfUnit b⟩ := by
  have hone : (Scalar.ofNat 1 : ℚ) = 1 := Nat.cast_one
  have htwo : (Scalar.ofNat 2 : ℚ) = 2 := Nat.cast_ofNat
  have hsixth : 60 * t / Scalar.ofNat 60 = t := mul_div_cancel_left₀ t (by norm_num [Scalar.ofNat])
  have hclamp {v : ℚ} (hv : 0 ≤ v ∧ v ≤ 1) : Scalar.clamp (v * 100 / Scalar.ofNat 100) = v := by
    have hpercent : v * 100 / Scalar.ofNat 100 = v := mul_div_cancel_right₀ v (by norm_num)
    rw [hpercent, clamp_rat hv]
  unfold rise tent at hrise
  rw [room_rat] at hrise hlow
  unfold Hsl.toRgb
  simp only [hclamp hs, hclamp hl, modulo_sixths ht, hsixth, abs_rat, hone, htwo, hrise, hlow,
    sub_add_cancel]

end

namespace Rgb

variable (c : Rgb)

/-- The components lie between the smallest and the largest of them. -/
theorem isSpan :
    IsSpan (unitOfByte c.red) (unitOfByte c.green) (unitOfByte c.blue) c.lowest c.highest := by
  unfold lowest highest
  rw [min_rat, min_rat, max_rat, max_rat]
  exact isSpan_min_max _ _ _

theorem lowest_le_highest : (c.lowest : ℚ) ≤ c.highest := c.isSpan.red.1.trans c.isSpan.red.2

/-- The smallest component is not negative. -/
theorem lowest_nonneg : 0 ≤ (c.lowest : ℚ) := by
  rcases c.isSpan.low_attained with h | h | h <;> rw [h] <;> exact (unitOfByte_bounds _).1

/-- The largest component is one at most. -/
theorem highest_le_one : (c.highest : ℚ) ≤ 1 := by
  rcases c.isSpan.high_attained with h | h | h <;> rw [h] <;> exact (unitOfByte_bounds _).2

/-- The lightness lies between them. -/
theorem lightness_bounds : 0 ≤ (c.lightness : ℚ) ∧ (c.lightness : ℚ) ≤ 1 := by
  have := c.lowest_le_highest
  show 0 ≤ (c.highest + c.lowest : ℚ) / 2 ∧ (c.highest + c.lowest : ℚ) / 2 ≤ 1
  constructor <;> linarith [c.lowest_nonneg, c.highest_le_one]

/-- Components are no further apart than the lightness leaves room for. -/
theorem spread_le_room : (c.spread : ℚ) ≤ room c.lightness :=
  le_room c.lowest_nonneg c.highest_le_one

/-- Components that are not all the same are apart. -/
theorem spread_pos (h : (c.spread : ℚ) ≠ 0) : 0 < (c.spread : ℚ) :=
  (sub_nonneg.mpr c.lowest_le_highest).lt_of_ne' h

/-- In the other model a color has a hue of `t` sixths of the circle, and it comes back. -/
structure IsModel (t s l : ℚ) : Prop where
  turn : 0 ≤ t ∧ t < 6
  saturation : 0 ≤ s ∧ s ≤ 1
  lightness : 0 ≤ l ∧ l ≤ 1
  values : c.toHsl = ⟨60 * t, s * 100, l * 100⟩
  back : (c.toHsl : Hsl ℚ).toRgb = c

/-- A hue, a saturation and a lightness from which the components come back are a model of the
color. -/
theorem isModel_of_rise {t s l : ℚ} (low : ℚ) (ht : 0 ≤ t ∧ t < 6) (hs : 0 ≤ s ∧ s ≤ 1)
    (hl : 0 ≤ l ∧ l ≤ 1) (hvalues : c.toHsl = ⟨60 * t, s * 100, l * 100⟩)
    (hrise : rise t (room l * s) =
      (unitOfByte c.red - low, unitOfByte c.green - low, unitOfByte c.blue - low))
    (hlow : l - room l * s / 2 = low) : c.IsModel t s l where
  turn := ht
  saturation := hs
  lightness := hl
  values := hvalues
  back := by
    rw [hvalues, Hsl.toRgb_of_rise ht hs hl hrise hlow, byteOfUnit_unitOfByte,
      byteOfUnit_unitOfByte, byteOfUnit_unitOfByte]

/-- A gray color comes back from its lightness. -/
theorem isModel_gray (h : (c.lowest : ℚ) = c.highest) : c.IsModel 0 0 c.lightness := by
  have hspread : (c.spread : ℚ) = 0 := sub_eq_zero.mpr h.symm
  have hlightness : (c.lightness : ℚ) = c.lowest := by
    show (c.highest + c.lowest : ℚ) / 2 = c.lowest
    linarith
  obtain ⟨⟨hr₀, hr₁⟩, ⟨hg₀, hg₁⟩, ⟨hb₀, hb₁⟩, -, -⟩ := c.isSpan
  refine c.isModel_of_rise c.lowest (by norm_num) (by norm_num) c.lightness_bounds ?_ ?_ ?_
  · rw [toHsl_gray (eq_rat_iff.mpr hspread)]
    simp [Scalar.ofNat]
  · -- All components are the smallest one.
    have hr : (unitOfByte c.red : ℚ) = c.lowest := by linarith
    have hg : (unitOfByte c.green : ℚ) = c.lowest := by linarith
    have hb : (unitOfByte c.blue : ℚ) = c.lowest := by linarith
    rw [mul_zero, hr, hg, hb, sub_self, rise_zero]
  · rw [hlightness, mul_zero, zero_div, sub_zero]

/-- A color that is not gray has a hue, and comes back from it. -/
theorem exists_isModel_colored (h : (c.lowest : ℚ) < c.highest) :
    ∃ t, c.IsModel t c.saturation c.lightness := by
  obtain ⟨t, ht⟩ := c.isSpan.exists_isTurn h
  have hspread : 0 < (c.spread : ℚ) := sub_pos.mpr h
  have hroom : 0 < room (c.lightness : ℚ) := hspread.trans_le c.spread_le_room
  -- What the saturation takes of the room is what the components are apart.
  have hchroma : room c.lightness * c.saturation = (c.spread : ℚ) :=
    mul_div_cancel₀ _ hroom.ne'
  have hhue : c.hue = 60 * t := by
    rw [hue, spread, ht.hue, modulo_sixths ht.bounds]
  refine ⟨t, c.isModel_of_rise c.lowest ht.bounds ⟨?_, ?_⟩ c.lightness_bounds ?_ ?_ ?_⟩
  · exact div_nonneg hspread.le hroom.le
  · exact (div_le_one hroom).mpr c.spread_le_room
  · rw [toHsl_colored (mt eq_rat_iff.mp hspread.ne'), hhue]
    rfl
  · rw [hchroma]
    exact ht.components
  · rw [hchroma]
    show (c.highest + c.lowest : ℚ) / 2 - (c.highest - c.lowest) / 2 = c.lowest
    ring

/-- So every color has a model. -/
theorem exists_isModel : ∃ t s l, c.IsModel t s l := by
  rcases c.lowest_le_highest.lt_or_eq with h | h
  · obtain ⟨t, ht⟩ := c.exists_isModel_colored h
    exact ⟨t, _, _, ht⟩
  · exact ⟨0, 0, _, c.isModel_gray h⟩

end Rgb

/-! ### No division by zero -/

/-- A fraction, or nothing once there was a division by zero on the way to it. -/
def Checked : Type :=
  Option ℚ

/-- Comparisons do not hold of nothing. -/
instance : Scalar Checked where
  add := Option.map₂ (· + ·)
  sub := Option.map₂ (· - ·)
  mul := Option.map₂ (· * ·)
  div x y := x.bind fun x => y.bind fun y => if y = 0 then none else some (x / y)
  ofNat n := some n
  lt x y := (Option.map₂ Scalar.lt x y).getD false
  eq x y := (Option.map₂ Scalar.eq x y).getD false
  abs := Option.map Scalar.abs
  modulo x y := x.bind fun x => y.bind fun y => if y = 0 then none else some (Scalar.modulo x y)
  floor x := (x.map Scalar.floor).getD 0
  round x := (x.map Scalar.round).getD 0

namespace Checked

/-- A fraction that was computed. -/
def defined (x : ℚ) : Checked :=
  some x

variable {x y : ℚ}

theorem defined_div (h : y ≠ 0) : defined x / defined y = defined (x / y) := if_neg h

theorem defined_modulo (h : y ≠ 0) :
    Scalar.modulo (defined x) (defined y) = defined (Scalar.modulo x y) := if_neg h

theorem defined_max : Scalar.max (defined x) (defined y) = defined (Scalar.max x y) :=
  (apply_ite defined _ _ _).symm

theorem defined_min : Scalar.min (defined x) (defined y) = defined (Scalar.min x y) :=
  (apply_ite defined _ _ _).symm

theorem defined_unitOfByte (b : UInt8) : unitOfByte b = defined (unitOfByte b) :=
  defined_div (by norm_num)

variable (c : Rgb)

theorem defined_lowest : c.lowest = defined c.lowest := by
  unfold Rgb.lowest
  rw [defined_unitOfByte, defined_unitOfByte, defined_unitOfByte, defined_min, defined_min]

theorem defined_highest : c.highest = defined c.highest := by
  unfold Rgb.highest
  rw [defined_unitOfByte, defined_unitOfByte, defined_unitOfByte, defined_max, defined_max]

theorem defined_spread : c.spread = defined c.spread := by
  unfold Rgb.spread
  rw [defined_lowest, defined_highest]
  rfl

theorem defined_lightness : c.lightness = defined c.lightness := by
  unfold Rgb.lightness
  rw [defined_lowest, defined_highest]
  exact defined_div (by norm_num)

theorem defined_room (l : ℚ) : room (defined l) = defined (room l) := rfl

variable {c}

/-- For a color that is not gray, the hue is divided by what the components are apart. -/
theorem defined_hue (h : (c.spread : ℚ) ≠ 0) : c.hue = defined c.hue := by
  have hdiv {u v : ℚ} : (defined u - defined v) / defined c.spread = defined ((u - v) / c.spread) :=
    defined_div h
  have hmodulo {u : ℚ} : Scalar.modulo (defined u) (Scalar.ofNat 6) =
      defined (Scalar.modulo u (Scalar.ofNat 6)) := defined_modulo (by norm_num)
  have hdegrees {r g b high : ℚ} :
      hueOf (defined r) (defined g) (defined b) (defined high) (defined c.spread) =
        defined (hueOf r g b high c.spread) := by
    rw [hueOf, hueOf, apply_ite defined, apply_ite defined, hdiv, hdiv, hdiv, hmodulo]
    rfl
  unfold Rgb.hue
  rw [defined_unitOfByte, defined_unitOfByte, defined_unitOfByte, defined_highest, defined_spread,
    hdegrees]
  exact defined_modulo (by norm_num)

/-- Its saturation is divided by the room, which is not less. -/
theorem defined_saturation (h : (c.spread : ℚ) ≠ 0) : c.saturation = defined c.saturation := by
  have hroom : room (c.lightness : ℚ) ≠ 0 := ((c.spread_pos h).trans_le c.spread_le_room).ne'
  unfold Rgb.saturation
  rw [defined_spread, defined_lightness, defined_room, defined_div hroom]

end Checked

/-- Hue, saturation and lightness, each in other numbers. -/
def Hsl.map {α β : Type} (f : α → β) (p : Hsl α) : Hsl β :=
  ⟨f p.hue, f p.saturation, f p.lightness⟩

namespace Rgb

variable (c : Rgb)

/-- In the change of model nothing is divided by zero. -/
theorem toHsl_checked : c.toHsl = (c.toHsl : Hsl ℚ).map Checked.defined := by
  -- Comparisons of what was computed come out the same, so both take the same branch.
  have heq : Scalar.eq (c.spread : Checked) (Scalar.ofNat 0) =
      Scalar.eq (c.spread : ℚ) (Scalar.ofNat 0) := by
    rw [Checked.defined_spread]
    rfl
  by_cases h : Scalar.eq (c.spread : ℚ) (Scalar.ofNat 0) = true
  · rw [toHsl_gray (heq.trans h), toHsl_gray h, Checked.defined_lightness]
    rfl
  · have hspread : (c.spread : ℚ) ≠ 0 := mt eq_rat_iff.mpr h
    rw [toHsl_colored (by rwa [heq]), toHsl_colored h, Checked.defined_hue hspread,
      Checked.defined_saturation hspread, Checked.defined_lightness]
    rfl

end Rgb

/-- Hue, saturation and lightness are a second model of every color: computed without a division by
zero and within their ranges, and the color comes back from them. -/
theorem toRgb_toHsl (c : Rgb) :
    (c.toHsl : Hsl ℚ).toRgb = c ∧
      (0 ≤ (c.toHsl : Hsl ℚ).hue ∧ (c.toHsl : Hsl ℚ).hue < 360) ∧
      (0 ≤ (c.toHsl : Hsl ℚ).saturation ∧ (c.toHsl : Hsl ℚ).saturation ≤ 100) ∧
      (0 ≤ (c.toHsl : Hsl ℚ).lightness ∧ (c.toHsl : Hsl ℚ).lightness ≤ 100) ∧
      (c.toHsl : Hsl Checked) = (c.toHsl : Hsl ℚ).map Checked.defined := by
  obtain ⟨t, s, l, ht, hs, hl, hvalues, hback⟩ := c.exists_isModel
  refine ⟨hback, ?_, ?_, ?_, c.toHsl_checked⟩ <;> rw [hvalues] <;> constructor <;> dsimp only <;>
    linarith

end Launcher.Color
