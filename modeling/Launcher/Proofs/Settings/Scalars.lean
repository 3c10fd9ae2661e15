import Launcher.Json.Value
import Launcher.Proofs.Decimal.Whole
import Launcher.Settings.Json5

namespace Launcher.Settings.Json5

/-!
# Scalars of JSON, read as JSON5

Settings are written as JSON and read as JSON5, which has more ways to write a scalar: other quotes,
escapes over the end of a line, numbers with a sign, in hexadecimal or without digits before their
point, and words as names. A scalar that was written in the plain way has to be read in the plain
way.

* `isSeparator` — the two characters that end a line in JSON5 and yet need no escape in JSON.
* `piece`, `readPieces?_escapeChar` — what one character of a text is read as.
* `readPieces?_escaped` — a text between quotes is read, unless it holds a separator.
* `readNumber?_digits` — a whole number.
* `readName_word` — a word.

Each part of a number is read as far as it goes, so something has to be known of what follows. In a
written file that is a comma or a new line, or nothing at all (`EndsScalar`). A number of digits
might still be taken for something else at its beginning: for a sign, for a word such as `Infinity`,
or for a hexadecimal number, if it begins with zero. All of this is excluded by the first digit, or
by the character after a zero, which can only be a comma or a new line.
-/

open Json (Piece escapeChar)

/-! ### Texts -/

/-- The two characters that end a line and yet need no escape in JSON. -/
def isSeparator (c : Char) : Bool :=
  c == '\u2028' || c == '\u2029'

/-- The characters that JSON writes with an escape of one letter. -/
def isShort (c : Char) : Bool :=
  c ∈ ['"', '\\', '\x08', '\x0c', '\n', '\r', '\t']

/-- A separator is not escaped when it is written. -/
theorem of_isSeparator {c : Char} (h : isSeparator c = true) :
    isShort c = false ∧ ¬c.toNat < 0x20 := by
  unfold isSeparator at h
  rw [Bool.or_eq_true, beq_iff_eq, beq_iff_eq] at h
  obtain rfl | rfl := h <;> decide

/-- What a character of a text is read as. -/
def piece (c : Char) : Piece :=
  if !isShort c && c.toNat < 0x20 then .unit c.toNat else .char c

/-- A hexadecimal digit has the value that it was written for. -/
theorem hexValue?_hexDigit {n : Nat} (h : n < 16) :
    Text.hexValue? (Text.hexDigit n) = some n := by
  revert n
  decide

/-- The four digits of a control character give its number. -/
theorem hex4?_control {n : Nat} (h : n < 0x20) :
    Json.hex4? '0' '0' (Text.hexDigit (n / 16)) (Text.hexDigit (n % 16)) = some n := by
  have hzero : Text.hexValue? '0' = some 0 := by decide
  unfold Json.hex4?
  rw [hzero, hexValue?_hexDigit (by omega), hexValue?_hexDigit (by omega)]
  simp only [Option.bind_eq_bind, Option.bind_some, Option.pure_def]
  congr 1
  omega

/-- A short escape is read as its character. -/
theorem readPieces?_short {c : Char} (h : isShort c = true) (rest : List Char) :
    readPieces? '"' (escapeChar c ++ rest) =
      (readPieces? '"' rest).map (Prod.map (piece c :: ·) id) := by
  unfold isShort at h
  simp only [List.mem_cons, List.not_mem_nil, or_false, decide_eq_true_eq] at h
  -- The equations of `readPieces?` overlap in so many ways that they are not used by name.
  obtain rfl | rfl | rfl | rfl | rfl | rfl | rfl := h
  all_goals
    refine Eq.trans (b := (readPieces? '"' rest).bind fun r => some (_ :: r.1, r.2)) rfl ?_
    cases readPieces? '"' rest <;> rfl

/-- The equalities by which a character is no short one. -/
theorem isShort_eq_false {c : Char} (h : isShort c = false) :
    c ≠ '"' ∧ c ≠ '\\' ∧ c ≠ '\x08' ∧ c ≠ '\x0c' ∧ c ≠ '\n' ∧ c ≠ '\r' ∧ c ≠ '\t' := by
  unfold isShort at h
  simpa only [List.mem_cons, List.not_mem_nil, or_false, decide_eq_false_iff_not, not_or] using h

/-- Four hexadecimal digits are read as the character that they number. -/
theorem readPieces?_control {c : Char} (hshort : isShort c = false) (h : c.toNat < 0x20)
    (rest : List Char) :
    readPieces? '"' (escapeChar c ++ rest) =
      (readPieces? '"' rest).map (Prod.map (piece c :: ·) id) := by
  obtain ⟨h1, h2, h3, h4, h5, h6, h7⟩ := isShort_eq_false hshort
  have hescape : escapeChar c =
      ['\\', 'u', '0', '0', Text.hexDigit (c.toNat / 16), Text.hexDigit (c.toNat % 16)] := by
    simp only [escapeChar, h1, h2, h3, h4, h5, h6, h7, h, if_false, if_true]
  have hpiece : piece c = .unit c.toNat := by
    simp [piece, hshort, h]
  rw [hescape, hpiece]
  show (Json.hex4? '0' '0' (Text.hexDigit (c.toNat / 16)) (Text.hexDigit (c.toNat % 16))).bind
    (fun n => (readPieces? '"' rest).bind fun r => some (.unit n :: r.1, r.2)) = _
  rw [hex4?_control h]
  cases readPieces? '"' rest <;> rfl

/-- Any other character is read as itself, unless it ends the line. -/
theorem readPieces?_other {c : Char} (hshort : isShort c = false) (h : ¬c.toNat < 0x20)
    (rest : List Char) :
    readPieces? '"' (escapeChar c ++ rest) =
      if isSeparator c then none
      else (readPieces? '"' rest).map (Prod.map (piece c :: ·) id) := by
  obtain ⟨h1, h2, h3, h4, h5, h6, h7⟩ := isShort_eq_false hshort
  have hescape : escapeChar c = [c] := by
    simp only [escapeChar, h1, h2, h3, h4, h5, h6, h7, h, if_false]
  have hpiece : piece c = .char c := by
    simp [piece, h]
  -- Of the characters that end a line, two are escaped and two are separators.
  have hend : (c == '\\' || isLineEnd c) = isSeparator c := by
    rw [Bool.eq_iff_iff]
    simp [isLineEnd, isSeparator, h2, h5, h6]
  rw [hescape, hpiece]
  show readPieces? '"' (c :: rest) = _
  rw [readPieces?.eq_def]
  split
  next heq => cases heq
  next heq => exact absurd (List.cons.inj heq).1 h2
  next heq => exact absurd (List.cons.inj heq).1 h2
  next heq => exact absurd (List.cons.inj heq).1 h2
  next heq => exact absurd (List.cons.inj heq).1 h2
  next heq =>
    cases heq
    rw [hend, if_neg (by simpa using h1)]
    split
    · rfl
    · cases readPieces? '"' rest <;> rfl

/-- One character of a text. -/
theorem readPieces?_escapeChar (c : Char) (rest : List Char) :
    readPieces? '"' (escapeChar c ++ rest) =
      if isSeparator c then none
      else (readPieces? '"' rest).map (Prod.map (piece c :: ·) id) := by
  by_cases hshort : isShort c = true
  · have hseparator : ¬isSeparator c = true := fun hc =>
      Bool.false_ne_true ((of_isSeparator hc).1.symm.trans hshort)
    rw [readPieces?_short hshort, if_neg hseparator]
  · rw [Bool.not_eq_true] at hshort
    by_cases h : c.toNat < 0x20
    · have hseparator : ¬isSeparator c = true := fun hc => (of_isSeparator hc).2 h
      rw [readPieces?_control hshort h, if_neg hseparator]
    · exact readPieces?_other hshort h rest

/-- The whole text up to its closing quote. -/
theorem readPieces?_escaped (s rest : List Char) :
    readPieces? '"' (s.flatMap escapeChar ++ '"' :: rest) =
      if s.any isSeparator then none else some (s.map piece, rest) := by
  induction s with
  | nil => rfl
  | cons c s ih =>
    rw [List.flatMap_cons, List.append_assoc, readPieces?_escapeChar, ih, List.any_cons]
    cases isSeparator c
    · cases s.any isSeparator <;> rfl
    · rfl

/-- The parts of a text stand for its characters; none of them is half of a pair. -/
theorem piecesText?_pieces (join : Nat → Nat → Char) (s : List Char) :
    Json.piecesText? join (s.map piece) = some s := by
  induction s with
  | nil => rfl
  | cons c s ih =>
    rw [List.map_cons]
    by_cases h : (!isShort c && decide (c.toNat < 0x20)) = true
    · have hpiece : piece c = .unit c.toNat := if_pos h
      have hlow : c.toNat < 0x20 := by
        rw [Bool.and_eq_true, decide_eq_true_eq] at h
        exact h.2
      -- Control characters are far below the surrogates.
      have hhigh : Json.isHighSurrogate c.toNat = false ∧ Json.isLowSurrogate c.toNat = false := by
        simp only [Json.isHighSurrogate, Json.isLowSurrogate, Bool.and_eq_false_iff,
          decide_eq_false_iff_not]
        omega
      rw [hpiece, Json.piecesText?.eq_def]
      simp only [hhigh, Bool.false_eq_true, if_false, ih, Char.ofNat_toNat]
      rfl
    · have hpiece : piece c = .char c := if_neg h
      rw [hpiece, Json.piecesText?, ih]
      rfl

/-! ### Numbers and words -/

/-- The text ends, or goes on with a mark that ends a number or a word. -/
def EndsScalar (rest : List Char) : Prop :=
  ∀ c ∈ rest.head?, c = ',' ∨ c = '\n'

theorem endsScalar_nil : EndsScalar [] := nofun

/-- It ends before a comma. -/
theorem endsScalar_comma (rest : List Char) : EndsScalar (',' :: rest) := by
  rintro c ⟨⟩
  exact .inl rfl

/-- It ends before a new line. -/
theorem endsScalar_newline (rest : List Char) : EndsScalar ('\n' :: rest) := by
  rintro c ⟨⟩
  exact .inr rfl

section Scalars

variable {rest : List Char} (hrest : EndsScalar rest)
include hrest

/-- In particular, no digit follows. -/
theorem endsNumber_of_endsScalar : Decimal.EndsNumber rest := by
  intro c hc
  obtain rfl | rfl := hrest c hc <;> rfl

/-- No exponent follows. -/
theorem spanExponent_rest : spanExponent rest = ([], rest) := by
  cases rest with
  | nil => rfl
  | cons c rest =>
    have hletter : isLetterOf 'e' c = false := by
      obtain rfl | rfl := hrest c rfl <;> decide
    unfold spanExponent
    simp only [hletter, Bool.false_and, Bool.false_eq_true, if_false]

/-- Digits are read to their end, without a fraction. -/
theorem spanDecimal?_digits (n : Nat) :
    spanDecimal? (Decimal.digits n ++ rest) = some (Decimal.digits n, rest) := by
  have hspan := Decimal.spanDigits_append (Decimal.isDigit_of_mem_digits n)
    (endsNumber_of_endsScalar hrest)
  have hexponent := spanExponent_rest hrest
  have hnil : (Decimal.digits n).isEmpty = false := by
    simpa using Decimal.digits_ne_nil n
  unfold spanDecimal?
  split
  next whole tail heq =>
    obtain ⟨rfl, rfl⟩ : whole = Decimal.digits n ∧ tail = rest := by
      -- A leading zero is read by itself; then the number is zero.
      split at heq
      next tail' hcons =>
        obtain ⟨hzero, rfl⟩ := Decimal.of_digits_append_zero hcons
        cases heq
        exact ⟨hzero.symm, rfl⟩
      next =>
        rw [hspan] at heq
        cases heq
        exact ⟨rfl, rfl⟩
    split
    next fraction tail' heq =>
      obtain ⟨rfl, rfl⟩ : fraction = [] ∧ tail' = tail := by
        split at heq
        next tail'' =>
          obtain hc | hc := hrest '.' rfl <;> exact absurd hc (by decide)
        next =>
          cases heq
          exact ⟨rfl, rfl⟩
      rw [hnil, hexponent]
      simp

omit hrest in

/-- No number begins like a word. -/
theorem wordNumber?_digits (n : Nat) : wordNumber? [] (Decimal.digits n ++ rest) = none := by
  have hne (d : Char) (hd : Text.isDigit d = false) (word : List Char) :
      Text.stripStart? (d :: word) (Decimal.digits n ++ rest) = none := by
    rw [Option.eq_none_iff_forall_ne_some]
    intro tail hstrip
    exact Decimal.digits_append_ne hd n rest _ (Text.stripStart?_eq_some_iff.mp hstrip)
  have hinfinity : Text.stripStart? "Infinity".toList (Decimal.digits n ++ rest) = none :=
    hne 'I' rfl ['n', 'f', 'i', 'n', 'i', 't', 'y']
  have hnan : Text.stripStart? "NaN".toList (Decimal.digits n ++ rest) = none :=
    hne 'N' rfl ['a', 'N']
  unfold wordNumber? numberWords
  simp only [List.findSome?_cons, List.findSome?_nil, hinfinity, hnan, Option.map_none]

/-- **The digits of a number** are read as its decimal notation. -/
theorem readNumber?_digits (n : Nat) :
    readNumber? (Decimal.digits n ++ rest) =
      some (decimalNode [] (Decimal.digits n), rest) := by
  have hspan := spanDecimal?_digits hrest n
  unfold readNumber?
  split
  next sign body heq =>
    obtain ⟨rfl, rfl⟩ : sign = [] ∧ body = Decimal.digits n ++ rest := by
      -- A digit is no sign.
      split at heq
      next tail hcons => exact absurd hcons (Decimal.digits_append_ne (by decide) n rest tail)
      next tail hcons => exact absurd hcons (Decimal.digits_append_ne (by decide) n rest tail)
      next =>
        cases heq
        exact ⟨rfl, rfl⟩
    split
    next x tail hcons =>
      -- A zero might be the beginning of a hexadecimal number.
      have hletter : isLetterOf 'x' x = false := by
        obtain ⟨-, rfl⟩ := Decimal.of_digits_append_zero hcons
        obtain rfl | rfl := hrest x rfl <;> decide
      rw [hletter, hspan]
      rfl
    next =>
      rw [wordNumber?_digits, hspan]
      rfl

/-- A word does not go on behind its end. -/
theorem readName_rest (isStart : Bool) : readName isStart rest = ([], rest) := by
  cases rest with
  | nil => rfl
  | cons c rest =>
    have hname : Text.isNameStart c = false ∧ Text.isNamePart c = false ∧ c ≠ '\\' := by
      obtain rfl | rfl := hrest c rfl <;> decide +kernel
    rw [readName]
    · cases isStart <;> simp [hname]
    · simp [hname]

/-- A word is read to its end. -/
theorem readName_word {word : List Char}
    (hword : ∀ c ∈ word, Text.isNameStart c = true ∧ Text.isNamePart c = true) (isStart : Bool) :
    readName isStart (word ++ rest) = (word.map .char, rest) := by
  induction word generalizing isStart with
  | nil => exact readName_rest hrest isStart
  | cons c word ih =>
    obtain ⟨hstart, hpart⟩ := hword c List.mem_cons_self
    -- A letter is no backslash, so it is not taken for an escape.
    have hescape : c ≠ '\\' := by
      rintro rfl
      exact absurd hstart (by decide +kernel)
    rw [List.cons_append, readName, ih (fun d hd => hword d (List.mem_cons_of_mem c hd))]
    · cases isStart <;> simp [hstart, hpart]
    · simp [hescape]

end Scalars

end Launcher.Settings.Json5
