import Launcher.Currency.Amount
import Launcher.Proofs.Decimal.Fixed

namespace Launcher.Currency

/-!
# The text of an amount

* `IsStyle` — what is written before the amounts of a code, and how many places they have.
* `IsGrouping`, `grouped_eq` — separators cut a text into groups of three characters, counted from
  its end.
* `GroupedNumber` — a number whose whole part is written in groups; `GroupedNumber.filter_text`
  takes the separators away again.
* `formatAmount_grouped` — an amount is a sign or none, the symbol and such a number.

Groups are counted from the end of the whole part, and the program walks over it from its beginning,
where it looks at how many characters are left. The induction follows the program: a character
either begins a group, if a multiple of three comes after it, or it extends the first group of the
rest. How many characters the first group has shows in the length of the whole text, since all other
groups have three (`length_flatten_mod`); this is what decides between the two cases.

The number itself is not computed here. `Decimal.fixed_abs` says that it is the size of the amount,
rounded to the places of the currency; what is added is that separators do not change it.
-/

/-! ### Styles -/

/-- What is written before an amount in a currency, and the number of places. -/
inductive IsStyle (code : String) : String → Nat → Prop
  | known {currency : Currency} (h : lookup? code = some currency) :
      IsStyle code currency.symbol currency.places
  | unknown (h : lookup? code = none) : IsStyle code (Text.uppered code ++ " ") 2

/-- The style that is found for a code is its style. -/
theorem isStyle_of_style {code symbol : String} {places : Nat} (h : style code = (symbol, places)) :
    IsStyle code symbol places := by
  unfold style at h
  split at h
  next currency hknown =>
    obtain ⟨rfl, rfl⟩ := Prod.mk.inj h
    exact .known hknown
  next hunknown =>
    obtain ⟨rfl, rfl⟩ := Prod.mk.inj h
    exact .unknown hunknown

/-! ### Groups -/

/-- All groups have three characters, but the first may have fewer. -/
inductive IsGrouping : List (List Char) → Prop
  | intro (first : List Char) (others : List (List Char)) (hfew : 1 ≤ first.length)
      (hmany : first.length ≤ 3) (hothers : ∀ group ∈ others, group.length = 3) :
      IsGrouping (first :: others)

/-- The length of the first group shows in that of the whole text. -/
theorem length_flatten_mod {first : List Char} {others : List (List Char)}
    (hothers : ∀ group ∈ others, group.length = 3) :
    (first :: others).flatten.length % 3 = first.length % 3 := by
  have hlength : others.flatten.length = others.length * 3 := by
    rw [List.length_flatten, List.map_congr_left hothers, List.map_const', List.sum_replicate,
      smul_eq_mul]
  rw [List.flatten_cons, List.length_append, hlength]
  omega

/-- Separators cut a text into groups. -/
theorem grouped_eq {s : List Char} (h : s ≠ []) :
    ∃ groups, IsGrouping groups ∧ groups.flatten = s ∧ grouped s = Text.joinWith [','] groups := by
  -- From the end of the text on, each character begins a group or extends the first one.
  fun_induction grouped s with
  | case1 => exact absurd rfl h
  | case2 c =>
    exact ⟨[[c]], .intro [c] [] (by simp) (by simp) (by simp), rfl, rfl⟩
  | case3 c rest hne hmod ih =>
    obtain ⟨_, ⟨first, others, hfew, hmany, hothers⟩, rfl, hrest⟩ := ih (by simpa using hne)
    refine ⟨[c] :: first :: others, .intro _ _ (by simp) (by simp) ?_, rfl, ?_⟩
    · rw [length_flatten_mod hothers] at hmod
      intro group hgroup
      -- A multiple of three is behind the new group, so the group after it is full.
      obtain rfl | hgroup := List.mem_cons.mp hgroup
      · omega
      · exact hothers group hgroup
    · rw [hrest, Text.joinWith_cons]
      rfl
  | case4 c rest hne hmod ih =>
    obtain ⟨_, ⟨first, others, hfew, hmany, hothers⟩, rfl, hrest⟩ := ih (by simpa using hne)
    refine ⟨(c :: first) :: others, .intro _ _ (by simp) ?_ hothers, rfl, ?_⟩
    · rw [length_flatten_mod hothers] at hmod
      rw [List.length_cons]
      omega
    · rw [hrest]
      cases others <;> rfl

/-- A number whose whole part is written in groups. -/
structure GroupedNumber where
  /-- The number without separators. -/
  plain : Decimal.Literal
  groups : List (List Char)
  flatten_groups : groups.flatten = plain.whole
  isGrouping : IsGrouping groups

/-- The number as it is written. -/
def GroupedNumber.text (n : GroupedNumber) : List Char :=
  Text.joinWith [','] n.groups ++ n.plain.pointed

/-- Nothing is taken out of a text without the character. -/
theorem filter_bne_of_not_mem {s : List Char} {c : Char} (h : c ∉ s) : s.filter (· != c) = s := by
  rw [List.filter_eq_self]
  intro d hd
  rw [bne_iff_ne]
  rintro rfl
  exact h hd

/-- What stands between groups can be taken out again. -/
theorem filter_joinWith {groups : List (List Char)} (h : ',' ∉ groups.flatten) :
    (Text.joinWith [','] groups).filter (· != ',') = groups.flatten := by
  induction groups with
  | nil => rfl
  | cons group groups ih =>
    rw [List.flatten_cons, List.mem_append, not_or] at h
    obtain ⟨hgroup, hgroups⟩ := h
    rw [List.flatten_cons]
    cases groups with
    | nil => simpa [Text.joinWith] using filter_bne_of_not_mem hgroup
    | cons next groups =>
      rw [Text.joinWith_cons, List.filter_append, List.filter_append, ih hgroups,
        filter_bne_of_not_mem hgroup]
      simp

/-- Without its separators it is the number itself. -/
theorem GroupedNumber.filter_text (n : GroupedNumber) :
    n.text.filter (· != ',') = n.plain.magnitude := by
  have hcomma : ',' ∉ n.plain.whole ++ n.plain.pointed :=
    n.plain.not_mem_magnitude (by decide) (by decide)
  rw [List.mem_append, not_or, ← n.flatten_groups] at hcomma
  rw [text, List.filter_append, filter_joinWith hcomma.1, filter_bne_of_not_mem hcomma.2,
    n.flatten_groups]
  rfl

/-- A number with digits before its point can be written in groups. -/
theorem GroupedNumber.exists_plain_eq {l : Decimal.Literal} (h : l.whole ≠ []) :
    ∃ n : GroupedNumber, n.plain = l ∧ n.text = grouped l.whole ++ l.pointed := by
  obtain ⟨groups, hgrouping, hflatten, hgrouped⟩ := grouped_eq h
  exact ⟨⟨l, groups, hflatten, hgrouping⟩, rfl, by rw [hgrouped]; rfl⟩

/-! ### Numbers in two parts -/

section Point

variable (l : Decimal.Literal)

theorem bne_point_of_mem_whole : ∀ c ∈ l.whole, (c != '.') = true :=
  fun c hc => bne_iff_ne.mpr (Decimal.ne_point_of_isDigit (l.isDigit_whole c hc))

/-- Before the point stand the digits of the whole part. -/
theorem takeWhile_magnitude : l.magnitude.takeWhile (· != '.') = l.whole := by
  rw [Decimal.Literal.magnitude, List.takeWhile_append_of_pos (bne_point_of_mem_whole l)]
  unfold Decimal.Literal.pointed
  cases l.fraction? <;> simp

/-- From the point on stands the rest. -/
theorem dropWhile_magnitude : l.magnitude.dropWhile (· != '.') = l.pointed := by
  rw [Decimal.Literal.magnitude, List.dropWhile_append_of_pos (bne_point_of_mem_whole l)]
  unfold Decimal.Literal.pointed
  cases l.fraction? <;> simp

/-- A number is written with a digit other than zero if it has one. -/
theorem hasNonzeroDigit_magnitude :
    hasNonzeroDigit l.magnitude = true ↔ ∃ c ∈ l.digits, c ≠ '0' := by
  simp only [hasNonzeroDigit, List.any_eq_true, Bool.and_eq_true, bne_iff_ne]
  constructor
  · rintro ⟨c, hc, hdigit, hzero⟩
    exact ⟨c, (l.mem_magnitude_iff (Decimal.ne_point_of_isDigit hdigit)).mp hc, hzero⟩
  · rintro ⟨c, hc, hzero⟩
    have hdigit := l.isDigit_of_mem c hc
    exact ⟨c, (l.mem_magnitude_iff (Decimal.ne_point_of_isDigit hdigit)).mpr hc, hdigit, hzero⟩

end Point

/-! ### Main theorem -/

/-- The parts of the text of an amount. -/
structure AmountParts where
  negative : Bool
  symbol : String
  number : GroupedNumber

/-- A sign or none, the symbol and the number. -/
def AmountParts.text (p : AmountParts) : List Char :=
  (if p.negative then ['-'] else []) ++ p.symbol.toList ++ p.number.text

/-- The parts are those of an amount in a currency. -/
structure AmountParts.Show (p : AmountParts) (amount : ℚ) (code : String) (places : Nat) : Prop where
  style : IsStyle code p.symbol places
  /-- The number is the size of the amount in fixed notation, but for its separators. -/
  filter_text : p.number.text.filter (· != ',') = p.number.plain.text
  isFixed : p.number.plain.IsFixed places |amount|
  /-- What is rounded to zero has no sign. -/
  negative_iff : p.negative = true ↔ amount < 0 ∧ ∃ c ∈ p.number.plain.digits, c ≠ '0'

/-- **Amounts are well grouped.** The text of every finite amount is a sign or none, the symbol of the
currency, and the rounded size of the amount with its whole part in groups of three digits. -/
theorem formatAmount_grouped (amount : Float) (h : Decimal.isFinite amount = true) (code : String) :
    ∃ (p : AmountParts) (places : Nat), (formatAmount amount code).toList = p.text ∧
      p.Show (Decimal.exactValue amount) code places := by
  rcases hstyle : style code with ⟨symbol, places⟩
  obtain ⟨l, hfixed, hl⟩ := Decimal.fixed_abs h places
  obtain ⟨n, rfl, htext⟩ := GroupedNumber.exists_plain_eq hl.whole.ne_nil
  -- The absolute value has no sign, so the text is cut at its point into digits and digits.
  have hunsigned : n.plain.text = n.plain.magnitude := by
    rw [Decimal.Literal.text, Decimal.Literal.signText, hl.sign]
    rfl
  refine ⟨⟨amount < 0.0 && hasNonzeroDigit n.plain.magnitude, symbol, n⟩, places, ?_,
    isStyle_of_style hstyle, ?_, hl, ?_⟩
  · simp only [formatAmount, AmountParts.text, hstyle, hfixed, hunsigned, takeWhile_magnitude,
      dropWhile_magnitude, String.toList_ofList, htext, List.append_assoc]
  · rw [hunsigned, n.filter_text]
  · have hnegative := Decimal.lt_zero_iff_exactValue h
    simp only [Bool.and_eq_true, decide_eq_true_iff, hasNonzeroDigit_magnitude, hnegative]

/-- A small debt in a currency that is not in the table, and a large one in a currency that is. -/
theorem formatAmount_grouped_debts :
    (Decimal.isFinite (-0.004) = true ∧ formatAmount (-0.004) "xyz" = "XYZ 0.00" ∧
      ∃ (p : AmountParts) (places : Nat), (formatAmount (-0.004) "xyz").toList = p.text ∧
        p.Show (Decimal.exactValue (-0.004)) "xyz" places) ∧
    (Decimal.isFinite (-1234567.891) = true ∧
      formatAmount (-1234567.891) "usd" = "-$1,234,567.89" ∧
      ∃ (p : AmountParts) (places : Nat), (formatAmount (-1234567.891) "usd").toList = p.text ∧
        p.Show (Decimal.exactValue (-1234567.891)) "usd" places) := by
  have hsmall : Decimal.isFinite (-0.004) = true := by decide +kernel
  have hlarge : Decimal.isFinite (-1234567.891) = true := by decide +kernel
  exact ⟨⟨hsmall, by decide +kernel, formatAmount_grouped (-0.004) hsmall "xyz"⟩,
    ⟨hlarge, by decide +kernel, formatAmount_grouped (-1234567.891) hlarge "usd"⟩⟩

end Launcher.Currency
