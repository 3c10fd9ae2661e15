import Launcher.Json.Reader
import Launcher.Proofs.Settings.Scalars

namespace Launcher.Json

/-!
# Scalars read back

* `readPieces?_escapeChar` — one character of a text, whether it is escaped or not.
* `readString?_escaped` — a text between quotes, whatever its characters are.
* `readNumeral?_append` — a number is read to its end, whatever follows it.
* `readNumeral?_intText` — a whole number.

A character is written in one of three ways: with a short escape, as four hexadecimal digits, or as
itself. The reader turns each into a `piece`, and a text is read back since its pieces are joined to
it again; that part is shared with the settings files, in `Launcher.Proofs.Settings`.

A number has four parts, and each is read as far as it goes. So each part is shown to be read in the
same way when something follows the number with which it could not go on (`EndsNumeral`), and these
facts together give the whole number. The reader of the program is one definition; `readMagnitude?`
and `readPowerDigits?` name two parts of it that occur in it twice, once for each sign, so that one
lemma serves both.
-/

open Settings.Json5 (isShort isShort_eq_false piece hex4?_control)

/-! ### Texts -/

section Texts

variable {c : Char}

/-- A short escape is read as its character. -/
theorem readPieces?_short (h : isShort c = true) (rest : List Char) :
    readPieces? (escapeChar c ++ rest) =
      (readPieces? rest).map (Prod.map (piece c :: ·) id) := by
  unfold isShort at h
  simp only [List.mem_cons, List.not_mem_nil, or_false, decide_eq_true_eq] at h
  obtain rfl | rfl | rfl | rfl | rfl | rfl | rfl := h
  all_goals
    refine Eq.trans (b := (readPieces? rest).bind fun r => some (_ :: r.1, r.2)) rfl ?_
    cases readPieces? rest <;> rfl

/-- Four hexadecimal digits are read as the character that they number. -/
theorem readPieces?_control (hshort : isShort c = false) (h : c.toNat < 0x20) (rest : List Char) :
    readPieces? (escapeChar c ++ rest) =
      (readPieces? rest).map (Prod.map (piece c :: ·) id) := by
  obtain ⟨h1, h2, h3, h4, h5, h6, h7⟩ := isShort_eq_false hshort
  have hescape : escapeChar c =
      ['\\', 'u', '0', '0', Text.hexDigit (c.toNat / 16), Text.hexDigit (c.toNat % 16)] := by
    simp only [escapeChar, h1, h2, h3, h4, h5, h6, h7, h, if_false, if_true]
  have hpiece : piece c = .unit c.toNat := by
    simp [piece, hshort, h]
  rw [hescape, hpiece]
  -- The escape is read as its four digits, which the reader puts together.
  show (hex4? '0' '0' (Text.hexDigit (c.toNat / 16)) (Text.hexDigit (c.toNat % 16))).bind
    (fun n => (readPieces? rest).bind fun r => some (.unit n :: r.1, r.2)) = _
  rw [hex4?_control h]
  cases readPieces? rest <;> rfl

/-- Any other character is read as itself. -/
theorem readPieces?_other (hshort : isShort c = false) (h : ¬c.toNat < 0x20) (rest : List Char) :
    readPieces? (escapeChar c ++ rest) =
      (readPieces? rest).map (Prod.map (piece c :: ·) id) := by
  obtain ⟨h1, h2, h3, h4, h5, h6, h7⟩ := isShort_eq_false hshort
  have hescape : escapeChar c = [c] := by
    simp only [escapeChar, h1, h2, h3, h4, h5, h6, h7, h, if_false]
  have hpiece : piece c = .char c := by
    simp [piece, h]
  rw [hescape, hpiece]
  show readPieces? (c :: rest) = _
  rw [readPieces?.eq_def]
  -- The reader knows a character by what it is not: no quote and no backslash.
  split
  next heq => cases heq
  next heq => exact absurd (List.cons.inj heq).1 h1
  next heq => exact absurd (List.cons.inj heq).1 h2
  next heq => exact absurd (List.cons.inj heq).1 h2
  next heq =>
    cases heq
    have hplain : ¬(c == '\\' || decide (c.toNat < 0x20)) = true := by simp [h2, h]
    rw [if_neg hplain]
    cases readPieces? rest <;> rfl

/-- One character of a text. -/
theorem readPieces?_escapeChar (c : Char) (rest : List Char) :
    readPieces? (escapeChar c ++ rest) =
      (readPieces? rest).map (Prod.map (piece c :: ·) id) := by
  by_cases hshort : isShort c = true
  · exact readPieces?_short hshort rest
  · rw [Bool.not_eq_true] at hshort
    by_cases h : c.toNat < 0x20
    · exact readPieces?_control hshort h rest
    · exact readPieces?_other hshort h rest

/-- The characters of a text are read up to the quote behind them. -/
theorem readPieces?_escaped (s rest : List Char) :
    readPieces? (s.flatMap escapeChar ++ '"' :: rest) = some (s.map piece, rest) := by
  induction s with
  | nil => rfl
  | cons c s ih =>
    rw [List.flatMap_cons, List.append_assoc, readPieces?_escapeChar, ih]
    rfl

/-- A text is read back from between its quotes. -/
theorem readString?_escaped (s : String) (rest : List Char) :
    readString? (s.toList.flatMap escapeChar ++ '"' :: rest) = some (some s, rest) := by
  unfold readString?
  rw [readPieces?_escaped, Option.map_some]
  dsimp only
  rw [Settings.Json5.piecesText?_pieces pairedChar, Option.map_some, String.ofList_toList]

end Texts

/-! ### Numbers -/

/-- No number goes on at the beginning. -/
def EndsNumeral (rest : List Char) : Prop :=
  ∀ c ∈ rest.head?, Text.isDigit c = false ∧ c ≠ '.' ∧ c ≠ 'e' ∧ c ≠ 'E'

/-- In particular, no digit stands at the beginning. -/
theorem EndsNumeral.endsNumber {rest : List Char} (h : EndsNumeral rest) :
    Decimal.EndsNumber rest :=
  fun c hc => (h c hc).1

/-- The digits of an exponent after its sign. -/
def readPowerDigits? (below : Bool) (s : List Char) :
    Option (Option (Bool × List Char) × List Char) :=
  let (ds, rest) := Decimal.spanDigits s
  if ds.isEmpty then none else some (some (below, ds), rest)

/-- A number after its sign. -/
def readMagnitude? (negative : Bool) (s : List Char) : Option (Numeral × List Char) := do
  let (whole, s) := Decimal.spanDigits s
  if whole.isEmpty || (whole.head? == some '0' && 1 < whole.length) then none
  let (fraction, s) ← readFraction? s
  let (exponent, s) ← readPower? s
  return (⟨negative, whole, fraction, exponent⟩, s)

theorem readNumeral?_minus (s : List Char) : readNumeral? ('-' :: s) = readMagnitude? true s :=
  rfl

/-- Without a sign, the magnitude begins at once. -/
theorem readNumeral?_of_ne {c : Char} (hc : c ≠ '-') (s : List Char) :
    readNumeral? (c :: s) = readMagnitude? false (c :: s) := by
  unfold readNumeral?
  split
  next heq =>
    split at heq
    next hcons => exact absurd (List.cons.inj hcons).1 hc
    next =>
      obtain ⟨rfl, rfl⟩ := Prod.mk.inj heq
      rfl

section Numbers

variable {s tail rest ds : List Char} (hrest : EndsNumeral rest)
include hrest

/-- The digits at the beginning end where they ended. -/
theorem spanDigits_append (h : Decimal.spanDigits s = (ds, tail)) :
    Decimal.spanDigits (s ++ rest) = (ds, tail ++ rest) := by
  obtain ⟨rfl, rfl⟩ := Prod.mk.inj h
  -- What follows the digits of `s` is no digit, and if nothing does, `rest` begins with none.
  have hends : Decimal.EndsNumber (s.dropWhile Text.isDigit ++ rest) := by
    intro c hc
    rw [List.head?_append] at hc
    cases hhead : (s.dropWhile Text.isDigit).head? with
    | none =>
      rw [hhead] at hc
      exact hrest.endsNumber c hc
    | some d =>
      rw [hhead] at hc
      obtain rfl := Option.some.inj hc
      have hfirst := List.head?_dropWhile_not Text.isDigit s
      rw [hhead] at hfirst
      simpa using hfirst
  have hspan := Decimal.spanDigits_append
    (fun c hc => List.all_eq_true.mp (List.all_takeWhile (p := Text.isDigit) (l := s)) c hc) hends
  rwa [← List.append_assoc, List.takeWhile_append_dropWhile] at hspan

/-- The digits behind a point do, too, and no point is added. -/
theorem readFraction?_append {fraction : Option (List Char)}
    (h : readFraction? s = some (fraction, tail)) :
    readFraction? (s ++ rest) = some (fraction, tail ++ rest) := by
  unfold readFraction? at h
  split at h
  next s' =>
    rcases hspan : Decimal.spanDigits s' with ⟨ds, after⟩
    rw [hspan] at h
    dsimp only at h
    split at h
    next => exact nomatch h
    next hne =>
      obtain ⟨rfl, rfl⟩ := Prod.mk.inj (Option.some.inj h)
      rw [List.cons_append, readFraction?, spanDigits_append hrest hspan]
      dsimp only
      rw [if_neg hne]
  next hpoint =>
    obtain ⟨rfl, rfl⟩ := Prod.mk.inj (Option.some.inj h)
    unfold readFraction?
    split
    next after heq =>
      -- The point could only be that of the rest.
      cases s with
      | nil => exact absurd rfl (hrest '.' (by rw [← List.nil_append rest, heq]; rfl)).2.1
      | cons c s => exact absurd (congrArg (· :: s) (List.cons.inj heq).1) (hpoint s)
    next => rfl

/-- So do the digits of an exponent. -/
theorem readPowerDigits?_append {below : Bool} {power : Option (Bool × List Char)}
    (h : readPowerDigits? below s = some (power, tail)) :
    readPowerDigits? below (s ++ rest) = some (power, tail ++ rest) := by
  unfold readPowerDigits? at h ⊢
  rcases hspan : Decimal.spanDigits s with ⟨ds, after⟩
  rw [hspan] at h
  rw [spanDigits_append hrest hspan]
  dsimp only at h ⊢
  split at h
  next => exact nomatch h
  next hne =>
    obtain ⟨rfl, rfl⟩ := Prod.mk.inj (Option.some.inj h)
    rw [if_neg hne]

/-- An exponent is read in the same way, and none is added. -/
theorem readPower?_append {power : Option (Bool × List Char)}
    (h : readPower? s = some (power, tail)) :
    readPower? (s ++ rest) = some (power, tail ++ rest) := by
  cases s with
  | nil =>
    obtain ⟨rfl, rfl⟩ := Prod.mk.inj (Option.some.inj h)
    cases rest with
    | nil => rfl
    | cons c rest =>
      obtain ⟨-, -, he, hE⟩ := hrest c rfl
      unfold readPower?
      simp [he, hE]
  | cons c s =>
    rw [List.cons_append]
    unfold readPower? at h ⊢
    dsimp only at h ⊢
    split at h
    -- The letter is there, so the sign after it is looked for.
    next hletter =>
      rw [if_pos hletter]
      split at h
      next s =>
        have hbelow : readPowerDigits? true s = some (power, tail) := h
        exact readPowerDigits?_append hrest hbelow
      next s =>
        have habove : readPowerDigits? false s = some (power, tail) := h
        exact readPowerDigits?_append hrest habove
      next hminus hplus =>
        -- Digits follow the letter, so that no sign can come from the rest.
        have hdigits : readPowerDigits? false (s ++ rest) = some (power, tail ++ rest) :=
          readPowerDigits?_append hrest h
        cases s with
        | nil => exact nomatch h
        | cons d s =>
          split
          next heq => exact absurd (congrArg (· :: s) (List.cons.inj heq).1) (hminus s)
          next heq => exact absurd (congrArg (· :: s) (List.cons.inj heq).1) (hplus s)
          next => exact hdigits
    next hletter =>
      obtain ⟨rfl, rfl⟩ := Prod.mk.inj (Option.some.inj h)
      rw [if_neg hletter]
      rfl

/-- All parts after the sign are read in the same way. -/
theorem readMagnitude?_append {negative : Bool} {n : Numeral}
    (h : readMagnitude? negative s = some (n, tail)) :
    readMagnitude? negative (s ++ rest) = some (n, tail ++ rest) := by
  unfold readMagnitude? at h ⊢
  rcases hspan : Decimal.spanDigits s with ⟨whole, s₁⟩
  rw [hspan] at h
  rw [spanDigits_append hrest hspan]
  dsimp only at h ⊢
  split at h
  next => exact nomatch h
  next hwhole =>
    obtain ⟨⟨fraction, s₂⟩, hfraction, h⟩ := Option.bind_eq_some_iff.mp h
    obtain ⟨⟨power, s₃⟩, hpower, h⟩ := Option.bind_eq_some_iff.mp h
    obtain ⟨rfl, rfl⟩ := Prod.mk.inj (Option.some.inj h)
    rw [if_neg hwhole, readFraction?_append hrest hfraction]
    show (readPower? (s₂ ++ rest)).bind _ = _
    rw [readPower?_append hrest hpower]
    rfl

/-- A number is read to its end, whatever follows it. -/
theorem readNumeral?_append {n : Numeral} (h : readNumeral? s = some (n, tail)) :
    readNumeral? (s ++ rest) = some (n, tail ++ rest) := by
  cases s with
  | nil => exact nomatch h
  | cons c s =>
    by_cases hc : c = '-'
    · subst hc
      have hmagnitude : readMagnitude? true s = some (n, tail) := h
      exact readMagnitude?_append hrest hmagnitude
    · rw [readNumeral?_of_ne hc] at h
      rw [List.cons_append, readNumeral?_of_ne hc]
      exact readMagnitude?_append hrest h

end Numbers

/-- The parts of a whole number. -/
def wholeNumeral (n : Int) : Numeral :=
  ⟨n < 0, Decimal.digits n.natAbs, none, none⟩

/-- No zero stands before another digit. -/
theorem digits_head_zero (n : Nat) :
    ((Decimal.digits n).head? == some '0' && decide (1 < (Decimal.digits n).length)) = false := by
  obtain rfl | hn := Nat.eq_zero_or_pos n
  · have hzero : Decimal.digits 0 = ['0'] := Decimal.digits_of_lt (by decide)
    rw [hzero]
    rfl
  · obtain ⟨c, ds, hds, hc⟩ := Decimal.head_digits hn
    simp [hds, hc]

/-- The digits of a number are read as a number without a fraction and an exponent. -/
theorem readMagnitude?_digits (negative : Bool) (n : Nat) :
    readMagnitude? negative (Decimal.digits n) =
      some (⟨negative, Decimal.digits n, none, none⟩, []) := by
  have hnonempty : (Decimal.digits n).isEmpty = false := by
    simpa using Decimal.digits_ne_nil n
  unfold readMagnitude?
  rw [Decimal.spanDigits_digits]
  dsimp only
  rw [hnonempty, digits_head_zero]
  rfl

/-- A whole number. -/
theorem readNumeral?_intText (n : Int) : readNumeral? (intText n) = some (wholeNumeral n, []) := by
  unfold intText wholeNumeral
  split
  next hneg =>
    rw [readNumeral?_minus, readMagnitude?_digits, decide_eq_true hneg]
  next hpos =>
    rw [decide_eq_false hpos]
    cases hds : Decimal.digits n.natAbs with
    | nil => exact absurd hds (Decimal.digits_ne_nil _)
    | cons c ds =>
      -- The first digit is no sign.
      have hc : c ≠ '-' := by
        rintro rfl
        have hmem : '-' ∈ Decimal.digits n.natAbs := by
          rw [hds]
          exact List.mem_cons_self
        have hdigit := Decimal.isDigit_of_mem_digits n.natAbs '-' hmem
        exact nomatch hdigit
      rw [readNumeral?_of_ne hc, ← hds]
      exact readMagnitude?_digits false _

end Launcher.Json
