import Launcher.Decimal.Fixed
import Launcher.Proofs.Decimal.Exact
import Launcher.Proofs.Decimal.Literals

namespace Launcher.Decimal

/-!
# Fixed notation

A number with so many places is a whole number of units, written as digits with a point between
them. The units are the value times a power of ten, rounded to the nearest whole number, ties to the
even one; that is said once (`IsNearest`), and both the rounding of the program and the literals
that it writes are compared with it.

* `IsNearest` — the whole number next to a fraction, a tie going to the even one; it is what
  `roundDiv` and `Dyadic.scaled` compute.
* `ofDigits_append`, `ofDigits_paddedDigits` — what digits denote that are put together.
* `ofDigits_lt_of_append_lt` — equally many digits are in the order of what they denote.
* `Literal.size`, `Literal.toRat` — what a literal denotes.
* `Literal.ofPlaces` — a literal made of a whole number and digits behind the point; its lemmas say
  all that is needed of it.
* `Literal.IsFixed` — a literal is a size in fixed notation.
* `fixed_abs` — the absolute value of a double with a number of places is such a literal.
-/

/-! ### Rounding to whole numbers -/

/-- The whole number next to a fraction, a tie going to the even one. -/
structure IsNearest (q : ℚ) (n : Nat) : Prop where
  near : |n - q| ≤ 1 / 2
  even_of_tie : |n - q| = 1 / 2 → n % 2 = 0

/-- A whole number is next to itself alone. -/
theorem IsNearest.eq {n k : Nat} (h : IsNearest k n) : n = k := by
  have hnear := abs_le.mp h.near
  have hlow : (k : ℚ) < n + 1 := by linarith
  have hhigh : (n : ℚ) < k + 1 := by linarith
  have hlow' : k < n + 1 := by exact_mod_cast hlow
  have hhigh' : n < k + 1 := by exact_mod_cast hhigh
  omega

/-- A quotient is rounded to the nearest whole number. -/
theorem isNearest_roundDiv (num : Nat) {den : Nat} (hden : 0 < den) :
    IsNearest (num / den) (roundDiv num den) := by
  have hpos : (0 : ℚ) < den := by exact_mod_cast hden
  -- The quotient is cut, and what is left decides.
  have hdivide : (num : ℚ) / den = (num / den : Nat) + (num % den : Nat) / den := by
    have hsum : (den : ℚ) * (num / den : Nat) + (num % den : Nat) = num := by
      exact_mod_cast Nat.div_add_mod num den
    field_simp
    linarith
  have hrest : 0 ≤ ((num % den : Nat) : ℚ) / den := by positivity
  rw [hdivide]
  unfold roundDiv
  dsimp only
  split
  -- What is left is more than a half, or a half at an odd quotient.
  next hup =>
    have hhalf : 1 / 2 ≤ ((num % den : Nat) : ℚ) / den := by
      rw [div_le_div_iff₀ two_pos hpos]
      have hle : 1 * den ≤ num % den * 2 := by omega
      exact_mod_cast hle
    have hone : ((num % den : Nat) : ℚ) / den < 1 := by
      rw [div_lt_one hpos]
      exact_mod_cast Nat.mod_lt num hden
    have hgap : ((num / den + 1 : Nat) : ℚ) - ((num / den : Nat) + (num % den : Nat) / den) =
        1 - (num % den : Nat) / den := by
      push_cast
      ring
    constructor
    · rw [hgap, abs_le]
      constructor <;> linarith
    · intro htie
      rw [hgap, abs_of_pos (by linarith)] at htie
      have heq : ((num % den : Nat) : ℚ) / den = 1 / 2 := by linarith
      rw [div_eq_div_iff hpos.ne' two_ne_zero] at heq
      have heq' : num % den * 2 = 1 * den := by exact_mod_cast heq
      omega
  -- What is left is less than a half, or a half at an even quotient.
  next hdown =>
    have hhalf : ((num % den : Nat) : ℚ) / den ≤ 1 / 2 := by
      rw [div_le_div_iff₀ hpos two_pos]
      have hle : num % den * 2 ≤ 1 * den := by omega
      exact_mod_cast hle
    have hgap : ((num / den : Nat) : ℚ) - ((num / den : Nat) + (num % den : Nat) / den) =
        -((num % den : Nat) / den) := by ring
    constructor
    · rwa [hgap, abs_neg, abs_of_nonneg hrest]
    · intro htie
      rw [hgap, abs_neg, abs_of_nonneg hrest, div_eq_div_iff hpos.ne' two_ne_zero] at htie
      have heq : num % den * 2 = 1 * den := by exact_mod_cast htie
      omega

/-- A dyadic in units of a power of a tenth, rounded. -/
theorem Dyadic.isNearest_scaled (d : Dyadic) (places : Nat) :
    IsNearest (d.size * 10 ^ places) (d.scaled places) := by
  have hden : 0 < 1 <<< (-d.exponent).toNat := by
    rw [Nat.one_shiftLeft]
    exact Nat.two_pow_pos _
  have hnum : d.size * (10 : ℚ) ^ places =
      ((d.significand * Nat.pow 10 places) <<< d.exponent.toNat : Nat) /
        (1 <<< (-d.exponent).toNat : Nat) := by
    rw [d.size_eq_div, Nat.pow_eq]
    simp only [Nat.shiftLeft_eq, Nat.cast_mul, Nat.cast_pow, Nat.cast_ofNat]
    ring
  rw [hnum]
  exact isNearest_roundDiv _ hden

/-- A whole number is not changed by rounding. -/
theorem Dyadic.scaled_of_whole {d : Dyadic} {k : Nat} (h : d.size = k) (places : Nat) :
    d.scaled places = k * 10 ^ places := by
  have hnearest := d.isNearest_scaled places
  rw [h] at hnearest
  exact IsNearest.eq (by exact_mod_cast hnearest)

/-- An integral dyadic is worth a whole number. -/
theorem Dyadic.size_of_isIntegral {d : Dyadic} (h : d.isIntegral = true) :
    ∃ k : Nat, d.size = k := by
  rw [d.size_eq_div]
  unfold isIntegral at h
  rw [Bool.or_eq_true, decide_eq_true_eq, beq_iff_eq] at h
  obtain hexponent | hrest := h
  · have hzero : (-d.exponent).toNat = 0 := by omega
    exact ⟨d.significand <<< d.exponent.toNat, by simp [hzero]⟩
  · by_cases hexponent : 0 ≤ d.exponent
    · have hzero : (-d.exponent).toNat = 0 := by omega
      exact ⟨d.significand <<< d.exponent.toNat, by simp [hzero]⟩
    · have hzero : d.exponent.toNat = 0 := by omega
      rw [hzero, Nat.shiftLeft_zero]
      exact ⟨_, (Nat.cast_div (Nat.dvd_of_mod_eq_zero hrest) (by simp)).symm⟩

/-! ### What digits denote -/

/-- Digits that stand before others are worth more by a power of ten. -/
theorem ofDigits_append (ds ds' : List Char) :
    ofDigits (ds ++ ds') = ofDigits ds * 10 ^ ds'.length + ofDigits ds' := by
  unfold ofDigits
  rw [List.foldl_append]
  induction ds' using List.reverseRecOn with
  | nil => simp
  | append_singleton ds' c ih =>
    simp only [List.foldl_append, List.foldl_cons, List.foldl_nil, ih, List.length_append,
      List.length_singleton, Nat.pow_succ]
    ring

/-- Zeros denote zero. -/
theorem ofDigits_zeros (k : Nat) : ofDigits (List.replicate k '0') = 0 := by
  induction k with
  | zero => rfl
  | succ k ih =>
    rw [List.replicate_succ', ofDigits_append, ih]
    rfl

/-- Zeros before digits do not matter. -/
theorem ofDigits_paddedDigits (width n : Nat) : ofDigits (paddedDigits width n) = n := by
  rw [paddedDigits, ofDigits_append, ofDigits_zeros, ofDigits_digits, Nat.zero_mul, Nat.zero_add]

/-- The first digit is worth a power of ten. -/
theorem ofDigits_cons (c : Char) (ds : List Char) :
    ofDigits (c :: ds) = Text.digitValue c * 10 ^ ds.length + ofDigits ds := by
  have hc : ofDigits [c] = Text.digitValue c := Nat.zero_add _
  rw [← hc, ← ofDigits_append, List.singleton_append]

/-- Digits denote less than one with as many zeros. -/
theorem ofDigits_lt {ds : List Char} (h : ∀ c ∈ ds, Text.isDigit c = true) :
    ofDigits ds < 10 ^ ds.length := by
  induction ds with
  | nil => exact Nat.one_pos
  | cons c ds ih =>
    rw [List.forall_mem_cons] at h
    obtain ⟨n, hn, rfl⟩ := eq_digitChar h.1
    have hrest := ih h.2
    have hle : n * 10 ^ ds.length ≤ 9 * 10 ^ ds.length :=
      Nat.mul_le_mul_right _ (Nat.le_of_lt_succ hn)
    rw [ofDigits_cons, digitValue_digitChar hn, List.length_cons, Nat.pow_succ]
    omega

/-- Runs of digits that are equally long are in the order of the numbers that they denote, whatever
follows them. -/
theorem ofDigits_lt_of_append_lt {ds ds' rest rest' : List Char}
    (hds : ∀ c ∈ ds, Text.isDigit c = true) (hds' : ∀ c ∈ ds', Text.isDigit c = true)
    (hlength : ds.length = ds'.length) (hne : ds ≠ ds') (h : ds ++ rest < ds' ++ rest') :
    ofDigits ds < ofDigits ds' := by
  induction ds generalizing ds' with
  | nil => exact absurd (List.length_eq_zero_iff.mp hlength.symm).symm hne
  | cons c ds ih =>
    cases ds' with
    | nil => cases hlength
    | cons c' ds' =>
      rw [List.forall_mem_cons] at hds hds'
      have hrests : ds.length = ds'.length := Nat.succ.inj hlength
      rw [ofDigits_cons, ofDigits_cons, hrests]
      obtain hlt | ⟨rfl, hlt⟩ := List.cons_lt_cons_iff.mp h
      · -- The first digits differ, and what is behind them does not outweigh that.
        have hlow := (Text.isDigit_iff.mp hds.1).1
        have hvalue : Text.digitValue c + 1 ≤ Text.digitValue c' := Nat.sub_lt_sub_right hlow hlt
        have hle := Nat.mul_le_mul_right (10 ^ ds'.length) hvalue
        have hrest := ofDigits_lt hds.2
        rw [hrests] at hrest
        rw [Nat.succ_mul] at hle
        omega
      · have hne : ds ≠ ds' := fun heq => hne (by rw [heq])
        exact Nat.add_lt_add_left (ih hds.2 hds'.2 hrests hne hlt) _

/-- Padded digits are digits. -/
theorem isDigit_of_mem_paddedDigits {width n : Nat} {c : Char} (h : c ∈ paddedDigits width n) :
    Text.isDigit c = true := by
  obtain hzero | hdigit := List.mem_append.mp h
  · rw [List.eq_of_mem_replicate hzero]
    decide
  · exact isDigit_of_mem_digits n c hdigit

/-- Padded digits are as many as asked for, if the number is not too large. -/
theorem length_paddedDigits {width n : Nat} (hwidth : 0 < width) (h : n < 10 ^ width) :
    (paddedDigits width n).length = width := by
  obtain ⟨k, rfl⟩ := Nat.exists_eq_add_of_lt hwidth
  have hle : (digits n).length ≤ 0 + k + 1 := length_digits_le h
  rw [paddedDigits, List.length_append, List.length_replicate]
  omega

/-! ### What literals denote -/

namespace Literal

variable (l : Literal)

/-- The number of digits behind the point. -/
def places : Nat :=
  (l.fraction?.getD []).length

/-- What a literal denotes without its sign. -/
def size : ℚ :=
  ofDigits l.digits / 10 ^ l.places

/-- What a literal denotes. -/
def toRat : ℚ :=
  if l.sign? = some .minus then -l.size else l.size

/-- No further zero stands before the digits of the whole part, of which there is at least one. -/
structure HasPlainWhole : Prop where
  ne_nil : l.whole ≠ []
  zero_alone : l.whole.head? = some '0' → l.whole = ['0']

/-- A literal is a size in fixed notation: without a sign, with a number of places and no point if
that is zero, rounded exactly. -/
structure IsFixed (places : Nat) (q : ℚ) : Prop where
  sign : l.sign? = none
  whole : l.HasPlainWhole
  places_eq : l.places = places
  point_iff : l.fraction?.isSome = true ↔ 0 < places
  nearest : IsNearest (q * 10 ^ places) (ofDigits l.digits)

end Literal

/-! ### Literals made of numbers -/

/-- The digits of a whole number have no further zero before them. -/
theorem zero_alone_digits {n : Nat} (h : (digits n).head? = some '0') : digits n = ['0'] := by
  obtain ⟨tail, htail⟩ := List.head?_eq_some_iff.mp h
  have happend : digits n ++ [] = '0' :: tail := by rw [List.append_nil, htail]
  exact (of_digits_append_zero happend).1

/-- The digits of a whole number, and a point before further ones if there are any. -/
def Literal.ofPlaces (sign? : Option WrittenSign) (n : Nat) (places : List Char)
    (hplaces : ∀ c ∈ places, Text.isDigit c = true) : Literal where
  sign? := sign?
  whole := Decimal.digits n
  fraction? := if places = [] then none else some places
  isDigit_of_mem := by
    intro c hc
    obtain hwhole | hfraction := List.mem_append.mp hc
    · exact isDigit_of_mem_digits n c hwhole
    · split at hfraction
      · simp at hfraction
      · exact hplaces c hfraction
  digits_ne_nil := List.append_ne_nil_of_left_ne_nil (Decimal.digits_ne_nil n) _

section OfPlaces

variable (sign? : Option WrittenSign) (n : Nat) {places : List Char}
  (hplaces : ∀ c ∈ places, Text.isDigit c = true)

/-- The digits behind the point. -/
theorem Literal.fraction_ofPlaces :
    (Literal.ofPlaces sign? n places hplaces).fraction?.getD [] = places := by
  by_cases hnil : places = [] <;> simp [ofPlaces, hnil]

theorem Literal.isSome_fraction_ofPlaces :
    (Literal.ofPlaces sign? n places hplaces).fraction?.isSome = true ↔ 0 < places.length := by
  by_cases hnil : places = [] <;> simp [ofPlaces, hnil, List.length_pos_iff]

/-- How the literal is written. -/
theorem Literal.magnitude_ofPlaces : (Literal.ofPlaces sign? n places hplaces).magnitude =
    Decimal.digits n ++ if places = [] then [] else '.' :: places := by
  by_cases hnil : places = [] <;> simp [magnitude, pointed, ofPlaces, hnil]

/-- What its digits denote. -/
theorem Literal.ofDigits_ofPlaces :
    ofDigits (Literal.ofPlaces sign? n places hplaces).digits =
      n * 10 ^ places.length + ofDigits places := by
  rw [digits, fraction_ofPlaces, ofDigits_append]
  show ofDigits (Decimal.digits n) * _ + _ = _
  rw [ofDigits_digits]

/-- Its whole part has no superfluous zero. -/
theorem Literal.hasPlainWhole_ofPlaces :
    (Literal.ofPlaces sign? n places hplaces).HasPlainWhole :=
  ⟨Decimal.digits_ne_nil n, zero_alone_digits⟩

end OfPlaces

/-- The places of a number of units of `10 ^ -places`. -/
def fixedPlaces (places n : Nat) : List Char :=
  if places = 0 then [] else paddedDigits places (n % 10 ^ places)

section FixedPlaces

variable (places n : Nat)

/-- The places are digits. -/
theorem isDigit_of_mem_fixedPlaces : ∀ c ∈ fixedPlaces places n, Text.isDigit c = true := by
  intro c hc
  unfold fixedPlaces at hc
  split at hc
  next => exact nomatch hc
  next => exact isDigit_of_mem_paddedDigits hc

/-- They are as many as asked for. -/
theorem length_fixedPlaces : (fixedPlaces places n).length = places := by
  unfold fixedPlaces
  split
  next hzero => exact hzero.symm
  next hzero =>
    exact length_paddedDigits (Nat.pos_of_ne_zero hzero) (Nat.mod_lt n (Nat.pow_pos (by decide)))

/-- They denote what is left of the whole part. -/
theorem ofDigits_fixedPlaces : ofDigits (fixedPlaces places n) = n % 10 ^ places := by
  unfold fixedPlaces
  split
  next hzero => rw [hzero, Nat.pow_zero, Nat.mod_one]; rfl
  next => exact ofDigits_paddedDigits places _

/-- A number of units of `10 ^ -places` as a literal. -/
def fixedLiteral : Literal :=
  .ofPlaces none (n / 10 ^ places) (fixedPlaces places n) (isDigit_of_mem_fixedPlaces places n)

/-- The literal is written as the program writes the units. -/
theorem text_fixedLiteral : (fixedLiteral places n).text = fixedNat places n := by
  have hmagnitude : (fixedLiteral places n).text = (fixedLiteral places n).magnitude := rfl
  rw [hmagnitude, fixedLiteral, Literal.magnitude_ofPlaces, fixedNat]
  have hlength := length_fixedPlaces places n
  by_cases hzero : places = 0
  · simp [fixedPlaces, hzero]
  · have hne : fixedPlaces places n ≠ [] := List.ne_nil_of_length_pos (by omega)
    rw [if_neg hzero, if_neg hne, fixedPlaces, if_neg hzero]
    rfl

/-- It denotes the units. -/
theorem ofDigits_fixedLiteral : ofDigits (fixedLiteral places n).digits = n := by
  rw [fixedLiteral, Literal.ofDigits_ofPlaces, length_fixedPlaces, ofDigits_fixedPlaces,
    Nat.div_add_mod']

/-- Rounded units make a literal in fixed notation. -/
theorem isFixed_fixedLiteral {q : ℚ} (h : IsNearest (q * 10 ^ places) n) :
    (fixedLiteral places n).IsFixed places q where
  sign := rfl
  whole := Literal.hasPlainWhole_ofPlaces _ _ _
  places_eq := by
    rw [Literal.places, fixedLiteral, Literal.fraction_ofPlaces, length_fixedPlaces]
  point_iff := by rw [fixedLiteral, Literal.isSome_fraction_ofPlaces, length_fixedPlaces]
  nearest := by rwa [ofDigits_fixedLiteral]

end FixedPlaces

/-- **The absolute value of a double** in fixed notation. -/
theorem fixed_abs {x : Float} (h : isFinite x = true) (places : Nat) :
    ∃ l : Literal, fixed places x.abs = l.text ∧ l.IsFixed places |exactValue x| := by
  obtain ⟨d, hx⟩ := isFinite_iff.mp h
  refine ⟨fixedLiteral places (d.scaled places), ?_, isFixed_fixedLiteral places _ ?_⟩
  · rw [fixed, ofFloat_abs hx, text_fixedLiteral]
    rfl
  · rw [exactValue_of_finite hx, d.abs_toRat]
    exact d.isNearest_scaled places

end Launcher.Decimal
