import Launcher.Proofs.Decimal.Literals
import Launcher.Proofs.Intent

namespace Launcher

/-!
# Phrases that ask for a conversion

A phrase is an amount, a unit, the word `to` and another unit. Units are free text, and may hold the
word themselves, or begin with what could still be part of the amount. A phrase is therefore
described by what is written, as a record of its parts with the conditions under which they can be
told apart again, and the theorem is that they are.

* `signedDecimal?_sign`, `signedDecimal?_magnitude` — a sign is taken over to the number behind it,
  and a number without a sign is read to its end.
* `signedDecimal?_text` — so an amount is read off the beginning of a text, whatever follows it that
  is neither a digit nor a point.
* `cutAtTo?_append` — a text is cut at the last ` to ` in it, in any case of letters.
* `Phrase` — an amount, a source, the word between the units and a target; `Phrase.text` writes it.
* `Phrase.classify_text` — so a phrase means the conversion that it asks for, whatever blanks stand
  behind its amount. No other interpreter has to be looked at: what one of them reads is what the
  query means.
* `Intent.classify_phrase` — with a space there, and without one.
-/

/-! ### Amounts -/

/-- Neither a digit nor a point stands at the beginning. -/
def EndsDecimal (rest : List Char) : Prop :=
  ∀ c ∈ rest.head?, Text.isDigit c = false ∧ c ≠ '.'

/-- A sign is taken over to the number that follows it. -/
theorem signedDecimal?_sign {s : List Char} (h : Decimal.IsUnsigned s) (sign : Decimal.WrittenSign) :
    signedDecimal? (sign.char :: s) = (signedDecimal? s).map (Prod.map (sign.char :: ·) id) := by
  conv_rhs => unfold signedDecimal?
  split
  next taken body heq =>
    obtain ⟨rfl, rfl⟩ : taken = [] ∧ body = s := by
      split at heq
      next => exact absurd rfl (h '+' rfl).1
      next => exact absurd rfl (h '-' rfl).2
      next => exact ⟨(congrArg Prod.fst heq).symm, (congrArg Prod.snd heq).symm⟩
    -- From here on only the sign differs, and the digits alone decide whether there is a number.
    rw [apply_ite (Option.map _)]
    cases sign <;> rfl

section Amounts

variable (l : Decimal.Literal) {rest : List Char} (hrest : EndsDecimal rest)
include hrest

/-- The digits before the point end where the point stands, or what follows the amount. -/
theorem spanDigits_magnitude :
    Decimal.spanDigits (l.magnitude ++ rest) = (l.whole, l.pointed ++ rest) := by
  have hends : Decimal.EndsNumber (l.pointed ++ rest) := by
    intro c hc
    rw [List.head?_append, Option.mem_def, Option.or_eq_some_iff] at hc
    obtain hpointed | ⟨-, hc⟩ := hc
    · exact l.endsNumber_pointed c hpointed
    · exact (hrest c hc).1
  rw [Decimal.Literal.magnitude, List.append_assoc]
  exact Decimal.spanDigits_append l.isDigit_whole hends

/-- An amount without a sign is read to its end. -/
theorem signedDecimal?_magnitude :
    signedDecimal? (l.magnitude ++ rest) = some (l.magnitude, rest) := by
  have hunsigned := l.isUnsigned_magnitude_append rest
  have hwhole := spanDigits_magnitude l hrest
  have hany := l.any_isDigit_magnitude
  unfold signedDecimal?
  split
  next sign body heq =>
    obtain ⟨rfl, rfl⟩ : sign = [] ∧ body = l.magnitude ++ rest := by
      split at heq
      next tail hcons => exact absurd rfl (hunsigned '+' (hcons ▸ rfl)).1
      next tail hcons => exact absurd rfl (hunsigned '-' (hcons ▸ rfl)).2
      next => exact ⟨(congrArg Prod.fst heq).symm, (congrArg Prod.snd heq).symm⟩
    rw [hwhole]
    unfold Decimal.Literal.magnitude at hany ⊢
    cases hsome : l.fraction? with
    | some fraction =>
      have hpointed : l.pointed = '.' :: fraction := by rw [Decimal.Literal.pointed, hsome]
      have hfraction : ∀ c ∈ fraction, Text.isDigit c = true := by
        simpa only [hsome, Option.getD_some] using l.isDigit_fraction
      have hspan := Decimal.spanDigits_append hfraction fun c hc => (hrest c hc).1
      rw [hpointed] at hany ⊢
      simp only [List.cons_append, hspan, Prod.map, hany, if_true, id, List.nil_append]
    | none =>
      have hpointed : l.pointed = [] := by rw [Decimal.Literal.pointed, hsome]
      rw [hpointed] at hany ⊢
      simp only [List.nil_append]
      -- A point behind the literal would be read as its own.
      split
      next => exact absurd rfl (hrest '.' rfl).2
      next => exact if_pos hany

/-- **An amount is read to its end**, if neither a digit nor a point follows it. -/
theorem signedDecimal?_text : signedDecimal? (l.text ++ rest) = some (l.text, rest) := by
  have hmagnitude := signedDecimal?_magnitude l hrest
  unfold Decimal.Literal.text Decimal.Literal.signText
  match l.sign? with
  | none => exact hmagnitude
  | some sign =>
    have hsign := signedDecimal?_sign (l.isUnsigned_magnitude_append rest) sign
    rw [hmagnitude] at hsign
    exact hsign

end Amounts

/-! ### The word between the units -/

/-- The word `to`, in any case of letters, with a space on both sides. -/
theorem lower_mark {word : List Char} (hword : Text.lower word = "to".toList)
    (left target : List Char) :
    Text.lower (left ++ ' ' :: (word ++ ' ' :: target)) =
      Text.lower left ++ " to ".toList ++ Text.lower target := by
  unfold Text.lower at hword ⊢
  rw [List.map_append, List.map_cons, List.map_append, List.map_cons, hword, List.append_assoc]
  rfl

/-- **A text is cut at the last ` to `**, in any case of letters. -/
theorem cutAtTo?_append {word target : List Char} (hword : Text.lower word = "to".toList)
    (hlast : Text.isInfix " to ".toList (Text.lower (' ' :: target)) = false) (left : List Char) :
    cutAtTo? (left ++ ' ' :: (word ++ ' ' :: target)) = some (left, target) := by
  have hlength : word.length = 2 := by
    rw [← Text.length_lower, hword]
    rfl
  -- Behind the space that begins the mark, only the space before the target can begin another one.
  have hbehind : ¬" to ".toList <:+: "to ".toList ++ Text.lower target := by
    rw [Bool.eq_false_iff, ne_eq, Text.isInfix_iff] at hlast
    intro hpart
    obtain hprefix | hpart := List.infix_cons_iff.mp hpart
    · exact absurd (List.cons_prefix_cons.mp hprefix).1 (by decide)
    obtain hprefix | hpart := List.infix_cons_iff.mp hpart
    · exact absurd (List.cons_prefix_cons.mp hprefix).1 (by decide)
    exact hlast hpart
  have hcut : Text.cutAtLast? " to ".toList (Text.lower (left ++ ' ' :: (word ++ ' ' :: target))) =
      some (Text.lower left, Text.lower target) := by
    rw [lower_mark hword]
    exact Text.cutAtLast?_append hbehind (Text.lower left)
  have hdrop : (left ++ ' ' :: (word ++ ' ' :: target)).drop (left.length + 4) = target := by
    have hassoc : left ++ ' ' :: (word ++ ' ' :: target) =
        (left ++ ' ' :: (word ++ [' '])) ++ target := by
      simp
    rw [hassoc]
    exact List.drop_left' (by simp [hlength])
  unfold cutAtTo?
  rw [hcut, Option.map_some]
  dsimp only
  rw [Text.length_lower, List.take_left, hdrop]

/-- What is read as a conversion is one: no interpreter before it claims the query. -/
theorem Intent.classify_of_conversion {query : List Char} {c : Conversion}
    (h : Conversion.parse? query = some c) : classify query = .conversion c := by
  have hread : Interpreter.conversion.read? query = some (.conversion c) := by
    rw [Interpreter.read?, h]
    rfl
  exact classify_of_read? hread

/-! ### Phrases -/

/-- A phrase that asks for a conversion. Its amount is finite; its units are trimmed and not empty; and
the word between them is the last of its kind. -/
structure Phrase where
  amount : Decimal.Literal
  source : List Char
  word : List Char
  target : List Char
  isFinite_amount : Decimal.isFinite amount.value = true
  source_ne_nil : source ≠ []
  trim_source : Text.trim source = source
  lower_word : Text.lower word = "to".toList
  target_ne_nil : target ≠ []
  trim_target : Text.trim target = target
  isInfix_target : Text.isInfix " to ".toList (Text.lower (' ' :: target)) = false

namespace Phrase

variable (p : Phrase)

/-- What stands before the word, with some blanks behind the amount. -/
def left (blanks : List Char) : List Char :=
  p.amount.text ++ (blanks ++ p.source)

/-- The phrase as a text, with some blanks behind the amount. -/
def text (blanks : List Char) : List Char :=
  p.left blanks ++ ' ' :: (p.word ++ ' ' :: p.target)

/-- The conversion that the phrase asks for. -/
def conversion : Conversion where
  amount := p.amount.value
  source := String.ofList p.source
  target := String.ofList p.target

/-- What stands before the word is trimmed. -/
theorem trim_left (blanks : List Char) : Text.trim (p.left blanks) = p.left blanks := by
  have hend := (Text.trim_eq_self_iff.mp p.trim_source).2
  exact Text.trim_append p.amount.text_ne_nil p.amount.trimStart_text
    (List.append_ne_nil_of_right_ne_nil _ p.source_ne_nil)
    (Text.trimEnd_append_self p.source_ne_nil hend blanks)

/-- So is the whole phrase. -/
theorem trim_text (blanks : List Char) : Text.trim (p.text blanks) = p.text blanks := by
  have hend := (Text.trim_eq_self_iff.mp p.trim_target).2
  -- Trimming sees the amount at the beginning and the target at the end only.
  have hsplit : p.text blanks =
      p.amount.text ++ ((blanks ++ p.source ++ ' ' :: (p.word ++ [' '])) ++ p.target) := by
    simp [text, left]
  rw [hsplit]
  exact Text.trim_append p.amount.text_ne_nil p.amount.trimStart_text
    (List.append_ne_nil_of_right_ne_nil _ p.target_ne_nil)
    (Text.trimEnd_append_self p.target_ne_nil hend _)

/-- The parts of a phrase are read off it. -/
theorem parse?_text {blanks : List Char} (hblanks : Text.isBlankText blanks = true)
    (hends : EndsDecimal (blanks ++ p.source)) :
    Conversion.parse? (p.text blanks) = some p.conversion := by
  have hcut : cutAtTo? (p.text blanks) = some (p.left blanks, p.target) :=
    cutAtTo?_append p.lower_word p.isInfix_target (p.left blanks)
  have hnumber : signedDecimal? (p.left blanks) = some (p.amount.text, blanks ++ p.source) :=
    signedDecimal?_text p.amount hends
  have hsource : Text.trim (blanks ++ p.source) = p.source := by
    rw [Text.trim_append_of_blank hblanks, p.trim_source]
  have hne : (p.source.isEmpty || !Decimal.isFinite p.amount.value) = false := by
    simp [p.source_ne_nil, p.isFinite_amount]
  -- Both texts that the reader trims are trimmed; the target and the source are given back as they are.
  unfold Conversion.parse?
  rw [p.trim_text, hcut, Option.bind_eq_bind, Option.bind_some]
  dsimp only
  rw [p.trim_target, if_neg (by simpa using p.target_ne_nil), p.trim_left, hnumber, Option.bind_some,
    p.amount.readFloat?_text, Option.bind_eq_bind, Option.bind_some, hsource, hne,
    if_neg Bool.false_ne_true]
  rfl

/-- **A phrase means the conversion that it asks for**, whatever blanks stand behind its amount. -/
theorem classify_text {blanks : List Char} (hblanks : Text.isBlankText blanks = true)
    (hends : EndsDecimal (blanks ++ p.source)) :
    Intent.classify (p.text blanks) = .conversion p.conversion :=
  Intent.classify_of_conversion (p.parse?_text hblanks hends)

end Phrase

namespace Intent

/-- **Phrases are recovered.** A phrase with a space behind its amount means the conversion that it asks
for; so does one without it, if the source begins with neither a digit nor a point. -/
theorem classify_phrase (p : Phrase) :
    classify (p.text [' ']) = .conversion p.conversion ∧
      (EndsDecimal p.source → classify (p.text []) = .conversion p.conversion) := by
  have hspace : EndsDecimal ([' '] ++ p.source) := by
    rintro c ⟨⟩
    exact ⟨by decide, by decide⟩
  exact ⟨p.classify_text (by decide) hspace, fun hends => p.classify_text rfl hends⟩

/-- A phrase in capital letters, with a sign and without a space behind its amount. Its target holds the
word once more, but no blank behind it. -/
def weight : Phrase where
  amount :=
    { sign? := some .minus
      whole := ['2']
      fraction? := some ['5']
      isDigit_of_mem := List.all_eq_true.mp (by decide)
      digits_ne_nil := by decide }
  source := "kg".toList
  word := "TO".toList
  target := "lb to".toList
  isFinite_amount := by decide +kernel
  source_ne_nil := by decide
  trim_source := by decide
  lower_word := by decide
  target_ne_nil := by decide
  trim_target := by decide
  isInfix_target := by decide

/-- The phrase is read without a space behind its amount. -/
theorem classify_phrase_weight :
    EndsDecimal weight.source ∧
      classify "-2.5kg TO lb to".toList =
        .conversion ⟨Decimal.ofScientific true 25 (-1), "kg", "lb to"⟩ := by
  have hends : EndsDecimal weight.source := by
    rintro c ⟨⟩
    exact ⟨by decide, by decide⟩
  exact ⟨hends, (classify_phrase weight).2 hends⟩

end Intent

end Launcher
