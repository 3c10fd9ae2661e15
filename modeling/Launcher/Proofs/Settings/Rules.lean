import Launcher.Proofs.Settings.WebSearch
import Launcher.Proofs.Text.Utf8

namespace Launcher.Settings

/-!
# The documented rules

* `IsCode`, `HasThreeBytes` — the base currency as it is documented, and as it is looked at.
* `KeepsRules` — settings that keep every documented rule, given the one for the base currency.
* `hasThreeBytes_iff` — how many characters three bytes are; three letters are among them.
* `check_iff_keepsRules` — what valid settings are, and which of them keep the documented rules.

The rule for the base currency is the only one in which the check and the documents differ. So
`KeepsRules` leaves that rule open. Once it is filled with what the check looks at, and the theorem
says which settings are valid; once it is filled with what is documented, and the theorem says which
of the valid settings are meant to be. All other rules are stated with plain bounds and do not
mention the functions of the check.

Three bytes are three letters, three digits, or a single sign such as `€`. How the bytes can be
distributed over characters is counted out in `hasThreeBytes_iff`; only the number of bytes of each
character matters for it, not which character it is.
-/

/-- The base currency is a code of three letters, blanks around it aside. -/
def IsCode (base : String) : Prop :=
  (Text.trim base.toList).length = 3 ∧ ∀ c ∈ Text.trim base.toList, Text.isLetter c = true

/-- The base currency is written in three bytes, blanks around it aside. -/
def HasThreeBytes (base : String) : Prop :=
  (Text.Utf8.encode (Text.trim base.toList)).length = 3

/-- A command can be called: its keyword is not blank, and its hotkey, if it has one, can be read. -/
structure IsCallable (c : Command) : Prop where
  keyword : ∃ ch ∈ c.keyword.toList, Text.isBlank ch = false
  hotkey : ∀ text ∈ c.hotkey, ∃ h, Hotkey.parse text.toList = .ok h

/-- Settings keep the documented rules, the base currency the one that is given. -/
structure KeepsRules (isBase : String → Prop) (s : Settings) : Prop where
  maxResults : 5 ≤ s.maxResults ∧ s.maxResults ≤ 100
  debounce : s.debounceMs ≤ 1000
  currencyBase : isBase s.currencyBase
  rateTtl : 0 < s.rateTtlSecs
  webSearch : s.webSearch = .custom → queryPlaceholder.toList <:+: s.webSearchTemplate.toList
  commands : ∀ c ∈ s.commands, IsCallable c

/-! ### Single rules -/

/-- A rule that refuses with one defect is kept where its condition holds. -/
theorem unless_eq_ok_iff {condition : Prop} [Decidable condition] {defect : Defect} :
    (if condition then .ok () else .error defect : Except Defect Unit) = .ok () ↔ condition := by
  -- The two branches are told apart by the condition alone.
  split
  next h => exact iff_of_true rfl h
  next h => exact iff_of_false nofun h

/-- A number is within a range if it is at neither side of it. -/
theorem isWithin_iff {range : Nat × Nat} {n : Nat} :
    isWithin range n = true ↔ range.1 ≤ n ∧ n ≤ range.2 := by
  rw [isWithin, Bool.and_eq_true, decide_eq_true_iff, decide_eq_true_iff]

/-- The number of results may be from five to a hundred. -/
theorem checkMaxResults_eq_ok_iff {n : Nat} : checkMaxResults n = .ok () ↔ 5 ≤ n ∧ n ≤ 100 :=
  unless_eq_ok_iff.trans isWithin_iff

/-- The pause may be up to a second long. -/
theorem checkDebounce_eq_ok_iff {n : Nat} : checkDebounce n = .ok () ↔ n ≤ 1000 :=
  unless_eq_ok_iff.trans (isWithin_iff.trans (and_iff_right n.zero_le))

/-- Of the base currency, only the number of its bytes is looked at. -/
theorem checkCurrencyBase_eq_ok_iff {base : String} :
    checkCurrencyBase base = .ok () ↔ HasThreeBytes base :=
  unless_eq_ok_iff

/-! ### Base currencies -/

/-- **Three bytes** are three characters of one byte each, one of one byte and one of two in either
order, or a single character of three. -/
theorem hasThreeBytes_iff {base : String} : HasThreeBytes base ↔
    (Text.trim base.toList).map Char.utf8Size ∈ [[1, 1, 1], [1, 2], [2, 1], [3]] := by
  rw [HasThreeBytes, Text.Utf8.length_encode]
  generalize Text.trim base.toList = s
  constructor
  · intro h
    -- Every character has a byte at least, so there are at most three of them.
    match s with
    | [] => simp at h
    | [a] => simpa using h
    | [a, b] =>
      have ha := a.utf8Size_pos
      have hb := b.utf8Size_pos
      simp only [List.map_cons, List.map_nil, List.foldr_cons, List.foldr_nil] at h
      obtain ⟨ha, hb⟩ | ⟨ha, hb⟩ : a.utf8Size = 1 ∧ b.utf8Size = 2 ∨
          a.utf8Size = 2 ∧ b.utf8Size = 1 := by omega
      · simp [ha, hb]
      · simp [ha, hb]
    | a :: b :: c :: s =>
      have ha := a.utf8Size_pos
      have hb := b.utf8Size_pos
      have hc := c.utf8Size_pos
      simp only [List.map_cons, List.foldr_cons] at h
      cases s with
      | nil =>
        have : a.utf8Size = 1 ∧ b.utf8Size = 1 ∧ c.utf8Size = 1 := by
          simp only [List.map_nil, List.foldr_nil] at h
          omega
        simp [this]
      | cons d s =>
        have hd := d.utf8Size_pos
        simp only [List.map_cons, List.foldr_cons] at h
        omega
  · intro h
    have hsum : ∀ widths ∈ [[1, 1, 1], [1, 2], [2, 1], [3]], widths.foldr (· + ·) 0 = 3 := by
      decide
    exact hsum _ h

/-- Three letters are three bytes. -/
theorem IsCode.hasThreeBytes {base : String} (h : IsCode base) : HasThreeBytes base := by
  obtain ⟨hlength, hletters⟩ := h
  have hwidth (c : Char) (hc : c ∈ Text.trim base.toList) : c.utf8Size = 1 := by
    have hletter := Text.isLetter_iff.mp (hletters c hc)
    exact Char.utf8Size_eq_one_iff.mpr (show c.toNat ≤ 127 by omega)
  rw [hasThreeBytes_iff, List.map_congr_left hwidth, List.map_const', hlength]
  exact List.mem_cons_self

/-! ### Commands -/

/-- The rule for a command is that it can be called. -/
theorem checkCommand_eq_ok_iff {c : Command} : checkCommand c = .ok () ↔ IsCallable c := by
  have hkeyword : Text.isBlankString c.keyword = false ↔
      ∃ ch ∈ c.keyword.toList, Text.isBlank ch = false := Text.isBlankText_eq_false_iff
  rw [checkCommand]
  split
  next hblank =>
    refine iff_of_false (by simp) fun h => ?_
    simp [hkeyword.mpr h.keyword] at hblank
  next hblank =>
    -- Past the first check the keyword is not blank, so only the hotkey is left.
    have hfilled := hkeyword.mp (Bool.eq_false_iff.mpr hblank)
    split
    next hnone => exact iff_of_true rfl ⟨hfilled, by simp [hnone]⟩
    next text hsome =>
      split
      next h hparse => exact iff_of_true rfl ⟨hfilled, by simp [hsome, hparse]⟩
      next fault hparse =>
        refine iff_of_false (by simp) fun h => ?_
        obtain ⟨hotkey, hread⟩ := h.hotkey text hsome
        rw [hparse] at hread
        cases hread

/-! ### Main theorem -/

/-- Settings are valid if they keep the rules, that for the base currency being three bytes. -/
theorem check_eq_ok_iff_keepsRules (s : Settings) :
    check s = .ok () ↔ KeepsRules HasThreeBytes s := by
  rw [check_eq_ok_iff, checkMaxResults_eq_ok_iff, checkDebounce_eq_ok_iff,
    checkCurrencyBase_eq_ok_iff, checkWebSearch_eq_ok_iff, checkCommands_eq_ok_iff]
  simp only [checkCommand_eq_ok_iff]
  constructor
  · rintro ⟨hmax, hdebounce, hbase, httl, hweb, hcommands⟩
    refine ⟨?_, ?_, hbase, ?_, hweb, hcommands⟩
    · exact ⟨UInt16.le_iff_toNat_le.mpr hmax.1, UInt16.le_iff_toNat_le.mpr hmax.2⟩
    · exact UInt64.le_iff_toNat_le.mpr hdebounce
    · exact UInt64.pos_iff_ne_zero.mpr httl
  · rintro ⟨hmax, hdebounce, hbase, httl, hweb, hcommands⟩
    refine ⟨?_, ?_, hbase, ?_, hweb, hcommands⟩
    · exact ⟨UInt16.le_iff_toNat_le.mp hmax.1, UInt16.le_iff_toNat_le.mp hmax.2⟩
    · exact UInt64.le_iff_toNat_le.mp hdebounce
    · exact UInt64.pos_iff_ne_zero.mp httl

/-- The rules bear on the base currency each for itself, so it can be told apart from the others. -/
theorem KeepsRules.congr {isBase isBase' : String → Prop} {s : Settings}
    (h : KeepsRules isBase s) (hbase : isBase' s.currencyBase) : KeepsRules isBase' s :=
  { h with currencyBase := hbase }

/-- **What valid settings are.** They keep the documented rules, except that the base currency has
three bytes, which may be three characters, two, or one. Those that keep the documented rules, in
which it is three letters, are the valid settings whose base currency is a code. -/
theorem check_iff_keepsRules (s : Settings) :
    (check s = .ok () ↔ KeepsRules HasThreeBytes s) ∧
      (HasThreeBytes s.currencyBase ↔
        (Text.trim s.currencyBase.toList).map Char.utf8Size ∈ [[1, 1, 1], [1, 2], [2, 1], [3]]) ∧
      (KeepsRules IsCode s ↔ check s = .ok () ∧ IsCode s.currencyBase) := by
  refine ⟨check_eq_ok_iff_keepsRules s, hasThreeBytes_iff, ?_⟩
  rw [check_eq_ok_iff_keepsRules]
  exact ⟨fun h => ⟨h.congr h.currencyBase.hasThreeBytes, h.currencyBase⟩,
    fun ⟨h, hcode⟩ => h.congr hcode⟩

/-- The sign of a currency has three bytes, and is accepted instead of a code. -/
theorem check_euro_sign :
    let s := { defaults {} with currencyBase := "€" }
    check s = .ok () ∧ ¬KeepsRules IsCode s := by
  intro s
  refine ⟨by decide +kernel, fun h => ?_⟩
  exact absurd h.currencyBase.1 (by decide)

end Launcher.Settings
