import Launcher.Arith.Display
import Launcher.Proofs.Arith.Grammar
import Launcher.Proofs.Arith.Spelling
import Launcher.Proofs.Decimal.Fixed

namespace Launcher.Arith

/-!
# What is shown can be relied on

A value is shown with at most three places behind the point, without zeros at the end. The program
writes three places and then takes characters away; the theorem is about the number that is left. In
between stands a literal with a meaning of its own: the value, rounded to thousandths, without
superfluous zeros.

* `dropTrailing_append_replicate`, `exists_eq_append_replicate` — what is left of a text whose last
  characters are dropped.
* `thousandths` — a number of thousandths as a literal without superfluous zeros; `size_thousandths`
  is its value, `text_thousandths` how it comes out of the text with three places.
* `display_eq_text` — every finite double is shown as its rounded thousandths. Whole numbers take
  another way in the program, which ends at the same text.
* `parse_text` — every literal is an expression.
* `isCanonical_thousandths`, `abs_toRat_thousandths_sub_le` — the literal is as short as it can be,
  and close to the value.
* `displayed_shows` — what is shown is canonical, close to the value, and an expression.
-/

open Decimal (Literal digits paddedDigits ofDigits)

/-! ### Trailing characters -/

section Trailing

variable {c : Char}

/-- Characters behind another one are dropped, and that one stays. -/
theorem dropTrailing_append_replicate {s : List Char} (h : s.getLast? ≠ some c) (k : Nat) :
    dropTrailing c (s ++ List.replicate k c) = s := by
  show (s ++ List.replicate k c).rdropWhile (· == c) = s
  induction k with
  | zero =>
    rw [List.replicate_zero, List.append_nil, List.rdropWhile_eq_self_iff]
    intro hne
    rw [List.getLast?_eq_some_getLast hne] at h
    simpa using h
  | succ k ih =>
    rw [List.replicate_succ', ← List.append_assoc, List.rdropWhile_concat_pos _ _ _ (by simp), ih]

/-- Every text ends in a number of such characters, which may be none. -/
theorem exists_eq_append_replicate (c : Char) (s : List Char) :
    ∃ front k, s = front ++ List.replicate k c ∧ front.getLast? ≠ some c := by
  induction s using List.reverseRecOn with
  | nil => exact ⟨[], 0, rfl, by simp⟩
  | append_singleton s d ih =>
    by_cases hd : d = c
    · obtain ⟨front, k, rfl, hlast⟩ := ih
      refine ⟨front, k + 1, ?_, hlast⟩
      rw [hd, List.replicate_succ', List.append_assoc]
    · exact ⟨s ++ [d], 0, by simp, by simpa using hd⟩

/-- So it is what is left of it and those characters. -/
theorem dropTrailing_spec (c : Char) (s : List Char) :
    ∃ k, s = dropTrailing c s ++ List.replicate k c ∧ (dropTrailing c s).getLast? ≠ some c := by
  obtain ⟨front, k, rfl, hlast⟩ := exists_eq_append_replicate c s
  rw [dropTrailing_append_replicate hlast]
  exact ⟨k, rfl, hlast⟩

/-- Nothing is dropped behind another character. -/
theorem dropTrailing_of_getLast? {s : List Char} (h : s.getLast? ≠ some c) :
    dropTrailing c s = s := by
  simpa using dropTrailing_append_replicate h 0

end Trailing

/-! ### Thousandths -/

/-- The places of a number of thousandths up to the last one that is not zero. -/
def shortPlaces (n : Nat) : List Char :=
  dropTrailing '0' (paddedDigits 3 (n % 1000))

/-- The places that count, and the zeros that were dropped, are all three. -/
theorem shortPlaces_spec (n : Nat) :
    ∃ k, paddedDigits 3 (n % 1000) = shortPlaces n ++ List.replicate k '0' ∧
      (shortPlaces n).length + k = 3 ∧ (shortPlaces n).getLast? ≠ some '0' := by
  obtain ⟨k, heq, hlast⟩ := dropTrailing_spec '0' (paddedDigits 3 (n % 1000))
  have hlength : (paddedDigits 3 (n % 1000)).length = 3 :=
    Decimal.length_paddedDigits (by decide) (Nat.mod_lt n (by decide))
  rw [heq, List.length_append, List.length_replicate] at hlength
  exact ⟨k, heq, hlength, hlast⟩

/-- A text that ends in digits does not end in a point. -/
theorem getLast?_ne_point {ds : List Char} (hne : ds ≠ []) (h : ∀ c ∈ ds, Text.isDigit c = true)
    (front : List Char) : (front ++ ds).getLast? ≠ some '.' := by
  rw [List.getLast?_append_of_ne_nil _ hne, List.getLast?_eq_some_getLast hne]
  intro hlast
  exact Decimal.ne_point_of_isDigit (h _ (List.getLast_mem hne)) (Option.some.inj hlast)

/-- The places that count are digits. -/
theorem isDigit_of_mem_shortPlaces (n : Nat) : ∀ c ∈ shortPlaces n, Text.isDigit c = true := by
  obtain ⟨k, heq, -⟩ := shortPlaces_spec n
  intro c hc
  exact Decimal.isDigit_of_mem_paddedDigits (heq ▸ List.mem_append_left _ hc)

/-- A number of thousandths. Zero has no sign. -/
def thousandths (negative : Bool) (n : Nat) : Literal :=
  .ofPlaces (if negative && n != 0 then some .minus else none) (n / 1000) (shortPlaces n)
    (isDigit_of_mem_shortPlaces n)

section Thousandths

variable (negative : Bool) (n : Nat)

/-- The size of a number of thousandths. -/
theorem size_thousandths : (thousandths negative n).size = n / 1000 := by
  obtain ⟨k, heq, hlength, -⟩ := shortPlaces_spec n
  have hrest : n % 1000 = ofDigits (shortPlaces n) * 10 ^ k := by
    rw [← Decimal.ofDigits_paddedDigits 3 (n % 1000), heq, Decimal.ofDigits_append,
      Decimal.ofDigits_zeros, List.length_replicate, Nat.add_zero]
  -- The zeros that are left out would only scale the digits.
  have hdigits : ofDigits (thousandths negative n).digits * 10 ^ k = n := by
    rw [thousandths, Literal.ofDigits_ofPlaces, Nat.add_mul, ← hrest, Nat.mul_assoc, ← Nat.pow_add,
      hlength]
    exact Nat.div_add_mod' n 1000
  have hplaces : (10 : ℚ) ^ (thousandths negative n).places * 10 ^ k = 1000 := by
    rw [Literal.places, thousandths, Literal.fraction_ofPlaces, ← pow_add, hlength]
    norm_num
  rw [Literal.size, div_eq_div_iff (by positivity) (by norm_num), ← hplaces, ← mul_assoc,
    mul_right_comm]
  exact_mod_cast congrArg (fun m : ℕ => (m : ℚ) * 10 ^ (thousandths negative n).places) hdigits

/-- The value of a number of thousandths, with its sign. -/
theorem toRat_thousandths :
    (thousandths negative n).toRat = if negative then -((n : ℚ) / 1000) else n / 1000 := by
  rw [Literal.toRat, size_thousandths]
  -- The sign is left out only where the size is zero.
  obtain rfl | hn := Nat.eq_zero_or_pos n
  · simp
  · cases negative <;> simp [thousandths, Literal.ofPlaces, hn.ne']

/-- A point is written only before places. -/
theorem magnitude_thousandths : (thousandths negative n).magnitude =
    digits (n / 1000) ++ if shortPlaces n = [] then [] else '.' :: shortPlaces n :=
  Literal.magnitude_ofPlaces _ _ _

/-- A whole number has no places. -/
theorem magnitude_thousandths_whole (k : Nat) :
    (thousandths negative (k * 1000)).magnitude = digits k := by
  have hplaces : shortPlaces (k * 1000) = [] := by
    rw [shortPlaces, Nat.mul_mod_left]
    decide +kernel
  rw [magnitude_thousandths, if_pos hplaces, List.append_nil, Nat.mul_div_cancel _ (by decide)]

/-- The text with three places is stripped to the digits that count. -/
theorem stripPlaces_fixedNat (sign : List Char) :
    stripPlaces (sign ++ Decimal.fixedNat 3 n) = sign ++ (thousandths negative n).magnitude := by
  obtain ⟨k, heq, hlength, hlast⟩ := shortPlaces_spec n
  have hfixed : sign ++ Decimal.fixedNat 3 n =
      (sign ++ digits (n / 1000) ++ '.' :: shortPlaces n) ++ List.replicate k '0' := by
    show sign ++ (digits (n / 1000) ++ '.' :: paddedDigits 3 (n % 1000)) = _
    rw [heq]
    simp
  have hpoint : (sign ++ Decimal.fixedNat 3 n).contains '.' = true := by
    rw [hfixed]
    simp
  have hzeros : (sign ++ digits (n / 1000) ++ '.' :: shortPlaces n).getLast? ≠ some '0' := by
    rw [List.getLast?_append_of_ne_nil _ (List.cons_ne_nil _ _), List.getLast?_cons]
    cases hshort : (shortPlaces n).getLast? with
    | none => simp
    | some c => simpa [hshort] using hlast
  rw [stripPlaces, if_pos hpoint, hfixed, magnitude_thousandths,
    dropTrailing_append_replicate hzeros]
  -- The zeros are dropped first; whether a point is then dropped too depends on what is left.
  by_cases hplaces : shortPlaces n = []
  · -- The point is the last character.
    have hwhole := getLast?_ne_point (Decimal.digits_ne_nil (n / 1000))
      (Decimal.isDigit_of_mem_digits _) sign
    rw [if_pos hplaces, hplaces, List.append_nil]
    exact dropTrailing_append_replicate hwhole 1
  · have hplace := getLast?_ne_point hplaces (isDigit_of_mem_shortPlaces n)
      (sign ++ digits (n / 1000) ++ ['.'])
    rw [if_neg hplaces, ← List.append_assoc]
    exact dropTrailing_of_getLast? (by simpa using hplace)

/-- Only zero is written as zero. -/
theorem magnitude_thousandths_ne (hn : n ≠ 0) : (thousandths negative n).magnitude ≠ ['0'] := by
  intro hzero
  have hdigits : ∀ c ∈ (thousandths negative n).digits, c = '0' := by
    intro c hc
    have hpoint := Decimal.ne_point_of_isDigit ((thousandths negative n).isDigit_of_mem c hc)
    rwa [← Literal.mem_magnitude_iff _ hpoint, hzero, List.mem_singleton] at hc
  have hsize := size_thousandths negative n
  rw [Literal.size, List.eq_replicate_of_mem hdigits, Decimal.ofDigits_zeros, Nat.cast_zero,
    zero_div] at hsize
  exact div_ne_zero (Nat.cast_ne_zero.mpr hn) (by norm_num) hsize.symm

/-- A sign before a text that stands for zero is taken away. -/
theorem text_thousandths :
    unsignedZero ((if negative then ['-'] else []) ++ (thousandths negative n).magnitude) =
      (thousandths negative n).text := by
  unfold unsignedZero
  cases negative with
  | false =>
    -- No minus stands among digits.
    have hminus : (thousandths false n).magnitude ≠ ['-', '0'] := fun heq =>
      (thousandths false n).not_mem_magnitude (d := '-') (by decide) (by decide) (by simp [heq])
    exact if_neg hminus
  | true =>
    obtain rfl | hn := Nat.eq_zero_or_pos n
    · decide +kernel
    · have hzero := magnitude_thousandths_ne true n hn.ne'
      have hsign : (thousandths true n).signText = ['-'] := by
        simp [Literal.signText, thousandths, Literal.ofPlaces, hn.ne', Decimal.WrittenSign.char]
      rw [Literal.text, hsign]
      exact if_neg fun heq => hzero (List.cons.inj heq).2

end Thousandths

/-! ### What is shown -/

/-- Zero is not left with a sign. -/
theorem unsignedZero_ne (s : List Char) : unsignedZero s ≠ "-0".toList := by
  unfold unsignedZero
  split
  next => decide
  next h => exact h

/-- A finite double is shown as its rounded thousandths. -/
theorem display_eq_text {x : Float} {d : Decimal.Dyadic}
    (h : Decimal.Magnitude.ofFloat x = .finite d) :
    display x = (thousandths d.negative (d.scaled 3)).text := by
  rw [← text_thousandths]
  unfold display
  split
  next hwhole =>
    -- With three places a whole number would come out the same, as all of them are zeros.
    rw [Bool.and_eq_true, Decimal.isIntegral, h] at hwhole
    obtain ⟨k, hk⟩ := Decimal.Dyadic.size_of_isIntegral hwhole.1
    have hthousandths : d.scaled 3 = k * 1000 := Decimal.Dyadic.scaled_of_whole hk 3
    have hunits : d.scaled 0 = k := by simpa using Decimal.Dyadic.scaled_of_whole hk 0
    have hdigits : Decimal.fixedNat 0 k = digits k := by simp [Decimal.fixedNat]
    rw [Decimal.fixed, h, hthousandths, magnitude_thousandths_whole]
    show unsignedZero (_ ++ Decimal.fixedNat 0 (d.scaled 0)) = _
    rw [hunits, hdigits]
  next =>
    rw [Decimal.fixed, h]
    show unsignedZero (stripPlaces (_ ++ Decimal.fixedNat 3 _)) = _
    rw [stripPlaces_fixedNat]

/-! ### Literals as expressions -/

section Parse

variable (l : Literal)

/-- The double next to a literal without its sign. -/
def sizeValue : Float :=
  Decimal.ofScientific false (ofDigits l.digits) (-((l.fraction?.getD []).length : Int))

/-- The operation that a sign stands for. -/
def signOp : Decimal.WrittenSign → UnaryOp
  | .plus => .plus
  | .minus => .minus

/-- A literal as an expression. -/
def literalExpr : Expr :=
  match l.sign? with
  | none => .number (sizeValue l)
  | some sign => .unary (signOp sign) (.number (sizeValue l))

/-- Without its sign a literal consists of digits and points. -/
theorem isNumeric_of_mem_magnitude : ∀ c ∈ l.magnitude, isNumeric c = true := by
  intro c hc
  obtain hdigit | rfl := l.of_mem_magnitude hc
  · rw [isNumeric, hdigit, Bool.true_or]
  · rfl

/-- Without its sign a literal is one token. -/
theorem tokenizeFrom_magnitude (offset : Nat) :
    tokenizeFrom offset l.magnitude = .ok [⟨offset, .number (sizeValue l)⟩] := by
  have hnumeric := isNumeric_of_mem_magnitude l
  have hread := l.readUnsigned?_magnitude false
  obtain ⟨c, rest, hcons⟩ := List.exists_cons_of_ne_nil l.magnitude_ne_nil
  rw [hcons] at hnumeric hread ⊢
  obtain ⟨hc, hrest⟩ := List.forall_mem_cons.mp hnumeric
  have htake : rest.takeWhile isNumeric = rest := List.takeWhile_eq_self_iff.mpr hrest
  have hdrop : rest.dropWhile isNumeric = [] := List.dropWhile_eq_nil_iff.mpr hrest
  rw [tokenizeFrom, isBlank_of_isNumeric hc, hc]
  simp [htake, hdrop, hread, tokenizeFrom, sizeValue, bind, Except.bind, pure, Except.pure]

/-- A sign before a text is a token before its tokens. -/
theorem tokenizeFrom_sign {sign : Decimal.WrittenSign} {offset : Nat} {s : List Char}
    {tokens : List Placed} (h : tokenizeFrom (offset + 1) s = .ok tokens) :
    tokenizeFrom offset (sign.char :: s) = .ok (⟨offset, (signOp sign).token⟩ :: tokens) := by
  have hblank : Text.isBlank sign.char = false := by cases sign <;> decide
  have hnumeric : isNumeric sign.char = false := by cases sign <;> rfl
  have hsymbol : symbol? sign.char = some (signOp sign).token := by cases sign <;> rfl
  rw [tokenizeFrom, hblank, hnumeric, hsymbol, h]
  rfl

/-- **Every literal is an expression**, its sign an operation. -/
theorem parse_text : parse l.text = .ok (literalExpr l) := by
  have hnumber : Derives .unary [.number (sizeValue l)] (.number (sizeValue l)) :=
    .ofPrimary (.number _)
  rw [parse_eq_ok_iff, Literal.text, Literal.signText, literalExpr]
  cases l.sign? with
  | none =>
    refine ⟨[.number (sizeValue l)], ?_, .ofTerm (.ofPower (.ofUnary hnumber))⟩
    show (tokenizeFrom 0 l.magnitude).map bare = _
    rw [tokenizeFrom_magnitude]
    rfl
  | some sign =>
    refine ⟨[(signOp sign).token, .number (sizeValue l)], ?_,
      .ofTerm (.ofPower (.ofUnary (.signed _ hnumber)))⟩
    show (tokenizeFrom 0 (sign.char :: l.magnitude)).map bare = _
    rw [tokenizeFrom_sign (tokenizeFrom_magnitude l 1)]
    rfl

end Parse

/-! ### Main theorem -/

/-- A literal is as short as a decimal with at most three places can be. -/
structure IsCanonical (l : Literal) : Prop where
  sign : l.sign? = none ∨ l.sign? = some .minus
  whole : l.HasPlainWhole
  fraction : ∀ places, l.fraction? = some places →
    1 ≤ places.length ∧ places.length ≤ 3 ∧ places.getLast? ≠ some '0'
  text_ne : l.text ≠ "-0".toList

/-- A number of thousandths is written as short as it can be. -/
theorem isCanonical_thousandths (negative : Bool) (n : Nat) :
    IsCanonical (thousandths negative n) where
  sign := by
    show (if negative && n != 0 then _ else _) = _ ∨ (if negative && n != 0 then _ else _) = _
    split
    next => exact .inr rfl
    next => exact .inl rfl
  whole := Literal.hasPlainWhole_ofPlaces _ _ _
  fraction := by
    obtain ⟨k, -, hlength, hlast⟩ := shortPlaces_spec n
    intro places hplaces
    replace hplaces : (if shortPlaces n = [] then none else some (shortPlaces n)) = some places :=
      hplaces
    split at hplaces
    next => cases hplaces
    next hne =>
      obtain rfl := Option.some.inj hplaces
      -- Three places less the zeros that were dropped.
      have hpos := List.length_pos_iff.mpr hne
      exact ⟨hpos, by omega, hlast⟩
  text_ne := text_thousandths negative n ▸ unsignedZero_ne _

/-- Rounding to thousandths moves a value by half a thousandth at most. -/
theorem abs_toRat_thousandths_sub_le (d : Decimal.Dyadic) :
    |(thousandths d.negative (d.scaled 3)).toRat - d.toRat| ≤ 1 / 2000 := by
  have hnear := (d.isNearest_scaled 3).near
  rw [toRat_thousandths, Decimal.Dyadic.toRat]
  rw [abs_le] at hnear ⊢
  split <;> constructor <;> linarith

/-- A whole number is not rounded. -/
theorem toRat_thousandths_of_whole {d : Decimal.Dyadic} {k : ℤ} (h : d.toRat = k) :
    (thousandths d.negative (d.scaled 3)).toRat = d.toRat := by
  have hsize : d.size = k.natAbs := by
    rw [← d.abs_toRat, h, Nat.cast_natAbs, Int.cast_abs]
  rw [toRat_thousandths, Decimal.Dyadic.scaled_of_whole hsize, Decimal.Dyadic.toRat, hsize]
  norm_num

/-- A literal that shows a value. -/
structure Shows (l : Literal) (value : ℚ) : Prop where
  isCanonical : IsCanonical l
  near : |l.toRat - value| ≤ 1 / 2000
  exact_of_whole : ∀ k : ℤ, value = k → l.toRat = value

/-- **Displayed numbers are canonical and close.** A finite double is shown as a decimal without
superfluous zeros and with at most three places, which is within half a thousandth of its value,
exact for a whole number, and an expression in its turn. -/
theorem displayed_shows (x : Float) (h : Decimal.isFinite x = true) :
    ∃ l : Literal, displayed x = String.ofList l.text ∧ Shows l (Decimal.exactValue x) ∧
      ∃ e, parse (displayed x).toList = .ok e := by
  obtain ⟨d, hx⟩ := Decimal.isFinite_iff.mp h
  have htext : displayed x = String.ofList (thousandths d.negative (d.scaled 3)).text :=
    congrArg String.ofList (display_eq_text hx)
  rw [htext, String.toList_ofList, Decimal.exactValue_of_finite hx]
  exact ⟨_, rfl, ⟨isCanonical_thousandths _ _, abs_toRat_thousandths_sub_le d,
    fun k => toRat_thousandths_of_whole⟩, _, parse_text _⟩

/-- A value that is rounded up to a further digit. -/
theorem displayed_shows_carry :
    Decimal.isFinite 999.9996 = true ∧ displayed 999.9996 = "1000" ∧
      ∃ l : Literal, displayed 999.9996 = String.ofList l.text ∧
        Shows l (Decimal.exactValue 999.9996) ∧
        ∃ e, parse (displayed 999.9996).toList = .ok e := by
  have hfinite : Decimal.isFinite 999.9996 = true := by decide +kernel
  exact ⟨hfinite, by decide +kernel, displayed_shows 999.9996 hfinite⟩

example : displayed (-0.0004) = "0" ∧ displayed 1e23 = "99999999999999991611392" := by
  decide +kernel

end Launcher.Arith
