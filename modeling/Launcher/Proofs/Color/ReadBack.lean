import Launcher.Proofs.Color.Shapes
import Launcher.Proofs.Decimal.Digits
import Launcher.Proofs.Text.Percent

namespace Launcher.Color

/-!
# Colors that are read back

A color is written as hexadecimal digits, as a call, or as three numbers, and blanks may stand in
many places. Each of these texts should be read as that color, in any case of its letters, and
should look like a color as well. The blanks are described by a record, so that one statement covers
all places where they may stand.

* `Padding`, `Spacing` — blanks around a text, and around each part of a color's text.
* `Rgb.written` — a color in each of its three forms, with blanks.
* `ofHex?_hex`, `ofRgbComponents_triple` — its digits and its components denote the color.
* `hex_read_back`, `call_read_back`, `triple_read_back` — each form, from what is left of the text
  when it is trimmed and its letters are small.
* `around_triple` — the blanks at both ends of three numbers belong to the text around them; without
  them the numbers are trimmed (`trim_triple_inner`).
* `written_read_back` — so does each form, in any case of letters and whatever blanks there are, and
  it looks like a color.
-/

/-! ### Blanks -/

/-- Blanks on both sides of a text. -/
structure Padding where
  before : List Char
  after : List Char
  blank_before : Text.isBlankText before = true
  blank_after : Text.isBlankText after = true

namespace Padding

/-- A text with blanks around it. -/
def around (p : Padding) (s : List Char) : List Char :=
  p.before ++ s ++ p.after

/-- No blanks at all. -/
def tight : Padding := ⟨[], [], rfl, rfl⟩

/-- One space before the text. -/
def space : Padding := ⟨[' '], [], by decide, rfl⟩

variable {s : List Char}

/-- The blanks around a trimmed text are trimmed away. -/
theorem trim_around (p : Padding) (h : Text.trim s = s) : Text.trim (p.around s) = s := by
  rw [around, List.append_assoc, Text.trim_append_of_blank p.blank_before, ← Text.trim_trimEnd,
    Text.trimEnd_append_of_blank p.blank_after, Text.trim_trimEnd, h]

/-- Around a text only blanks are added. -/
theorem of_mem_around {p : Padding} {c : Char} (h : c ∈ p.around s) :
    Text.isBlank c = true ∨ c ∈ s := by
  simp only [around, List.mem_append] at h
  obtain (hbefore | hs) | hafter := h
  · exact .inl (Text.isBlankText_iff.mp p.blank_before c hbefore)
  · exact .inr hs
  · exact .inl (Text.isBlankText_iff.mp p.blank_after c hafter)

end Padding

/-- Blanks around a whole text, and around each of three components in it. -/
structure Spacing where
  outer : Padding
  red : Padding
  green : Padding
  blue : Padding

namespace Spacing

/-- No blanks at all. -/
def tight : Spacing := ⟨.tight, .tight, .tight, .tight⟩

/-- A space behind each comma. -/
def afterCommas : Spacing := ⟨.tight, .tight, .space, .space⟩

end Spacing

/-! ### Written colors -/

/-- The forms in which a color is written. -/
inductive Form where
  | hex
  | call
  | triple
deriving Repr, DecidableEq

namespace Rgb

/-- The decimal components of a color with commas between them. -/
def triple (c : Rgb) (spacing : Spacing) : List Char :=
  Text.joinWith [','] [spacing.red.around (Decimal.digits c.red.toNat),
    spacing.green.around (Decimal.digits c.green.toNat),
    spacing.blue.around (Decimal.digits c.blue.toNat)]

/-- A color in one of its forms. -/
def written (c : Rgb) (spacing : Spacing) : Form → List Char
  | .hex => spacing.outer.around c.hex.toList
  | .call => spacing.outer.around ("rgb(".toList ++ c.triple spacing ++ [')'])
  | .triple => spacing.outer.around (c.triple spacing)

end Rgb

variable {c : Rgb} {spacing : Spacing} {s : List Char}

/-! ### Hexadecimal digits -/

theorem hexByte?_lower (high low : Char) :
    hexByte? (Text.lowerChar high) (Text.lowerChar low) = hexByte? high low := by
  simp [hexByte?, Text.hexValue?_lowerChar]

/-- The case of hexadecimal digits says nothing about their color. -/
theorem ofHex?_lower (digits : List Char) : ofHex? (Text.lower digits) = ofHex? digits := by
  match digits with
  | [r, g, b] => simp [Text.lower, ofHex?, hexByte?_lower]
  | [r, r', g, g', b, b'] => simp [Text.lower, ofHex?, hexByte?_lower]
  | [] | [_] | [_, _] | [_, _, _, _] | [_, _, _, _, _] | _ :: _ :: _ :: _ :: _ :: _ :: _ :: _ => rfl

/-- Two digits denote their byte. -/
theorem hexByte?_hexPair (b : UInt8) :
    hexByte? (Text.upperHexDigit (b.toNat / 16)) (Text.upperHexDigit (b.toNat % 16)) = some b := by
  have hlt := b.toNat_lt
  have hvalue : b.toNat / 16 * 16 + b.toNat % 16 = b.toNat := Nat.div_add_mod' b.toNat 16
  have hhigh := Text.Percent.hexValue?_upperHexDigit (n := b.toNat / 16) (by omega)
  have hlow := Text.Percent.hexValue?_upperHexDigit (n := b.toNat % 16) (by omega)
  rw [hexByte?, hhigh, hlow]
  show some (UInt8.ofNat (b.toNat / 16 * 16 + b.toNat % 16)) = some b
  rw [hvalue, UInt8.ofNat_toNat]

/-- The digits of a color denote it. -/
theorem ofHex?_hex (c : Rgb) :
    ofHex? (hexPair c.red ++ hexPair c.green ++ hexPair c.blue) = some c := by
  simp [hexPair, ofHex?, hexByte?_hexPair]

/-- A color in hexadecimal digits, with letters in either case, is read back. -/
theorem hex_read_back (h : Text.lower (Text.trim s) = Text.lower c.hex.toList) :
    parse s = .ok c ∧ looksLikeColor s = true := by
  have hhex : c.hex.toList = '#' :: (hexPair c.red ++ hexPair c.green ++ hexPair c.blue) := by
    simp [Rgb.hex]
  rw [hhex] at h
  obtain ⟨mark, digits, hbody, hmark, hdigits⟩ := List.map_eq_cons_iff.mp h
  obtain rfl : mark = '#' := Text.eq_of_lowerChar_eq (by decide) hmark
  have hcolor : ofHex? digits = some c := by
    rw [← ofHex?_lower]
    exact (congrArg ofHex? hdigits).trans ((ofHex?_lower _).trans (ofHex?_hex c))
  have hparse : parse s = .ok c := by simp [parse, hbody, hcolor]
  refine ⟨hparse, (looksLikeColor_iff_of_hash hbody).mpr ?_⟩
  rw [hparse]
  exact .ok c

/-! ### Components -/

/-- The digits of a byte are a component. -/
theorem byteComponent_digits (b : UInt8) : byteComponent (Decimal.digits b.toNat) = .ok b := by
  have hlt := b.toNat_lt
  have hword : b.toNat < 1 <<< 32 := Nat.lt_of_lt_of_le hlt (by decide)
  simp only [byteComponent, Decimal.readWord?_digits hword, if_pos hlt, UInt8.ofNat_toNat]

/-- No blanks stand among digits. -/
theorem trim_digits (n : Nat) : Text.trim (Decimal.digits n) = Decimal.digits n :=
  Text.trim_of_not_blank fun c hc =>
    Text.isBlank_of_isDigit (Decimal.isDigit_of_mem_digits n c hc)

/-- A component is made of digits and blanks. -/
theorem of_mem_component {p : Padding} {n : Nat} {ch : Char}
    (h : ch ∈ p.around (Decimal.digits n)) : Text.isBlank ch = true ∨ Text.isDigit ch = true :=
  (Padding.of_mem_around h).imp_right (Decimal.isDigit_of_mem_digits n ch)

/-- The commas part the components, and blanks around them are trimmed away. -/
theorem components_triple (c : Rgb) (spacing : Spacing) :
    components (c.triple spacing) = [Decimal.digits c.red.toNat, Decimal.digits c.green.toNat,
      Decimal.digits c.blue.toNat] := by
  have hcomma (p : Padding) (n : Nat) : ',' ∉ p.around (Decimal.digits n) := by
    intro h
    obtain hblank | hdigit := of_mem_component h
    · exact absurd hblank (by decide)
    · exact absurd hdigit (by decide)
  rw [components, Rgb.triple, Text.splitOn_joinWith (by simp) (by simp [hcomma])]
  simp [Padding.trim_around, trim_digits]

/-- The components of a color denote it. -/
theorem ofRgbComponents_triple (c : Rgb) (spacing : Spacing) :
    ofRgbComponents (c.triple spacing) = .ok c := by
  unfold ofRgbComponents threeComponents
  rw [components_triple]
  simp only [bind, Except.bind, byteComponent_digits]
  rfl

/-- Three bytes have the shape of three numbers. -/
theorem isTriple_triple (c : Rgb) (spacing : Spacing) : isTriple (c.triple spacing) = true := by
  have hdigits (n : Nat) : (Decimal.digits n).all Text.isDigit = true :=
    List.all_eq_true.mpr (Decimal.isDigit_of_mem_digits n)
  simp [isTriple, components_triple, Decimal.digits_ne_nil, hdigits]

/-- There are no letters among three numbers. -/
theorem isLetter_of_mem_triple {ch : Char} (h : ch ∈ c.triple spacing) :
    Text.isLetter ch = false := by
  obtain rfl | hblank | hdigit := mem_of_isTriple (isTriple_triple c spacing) h
  · decide
  · exact Text.isLetter_of_isBlank hblank
  · exact Text.isLetter_of_isDigit hdigit

theorem lower_triple (c : Rgb) (spacing : Spacing) :
    Text.lower (c.triple spacing) = c.triple spacing :=
  Text.lower_of_not_isLetter fun _ => isLetter_of_mem_triple

/-! ### Calls and triples -/

/-- The components of a color in a call of `rgb` are read back. -/
theorem call_read_back
    (h : Text.lower (Text.trim s) = "rgb(".toList ++ c.triple spacing ++ [')']) :
    parse s = .ok c ∧ looksLikeColor s = true := by
  have hhash (digits : List Char) : Text.trim s ≠ '#' :: digits := by
    intro hs
    rw [hs] at h
    exact absurd (List.cons.inj h).1 (by decide)
  have hbody : callBody? "rgb" (Text.lower (Text.trim s)) = some (c.triple spacing) :=
    callBody?_eq_some_iff.mpr ⟨[], rfl, by simp [h]⟩
  have hcall : isCall "rgb" (Text.lower (Text.trim s)) = true :=
    isCall_iff.mpr ⟨c.triple spacing, by simp [h]⟩
  constructor
  · rw [parse_of_not_hash hhash, hbody]
    exact ofRgbComponents_triple c spacing
  · rw [looksLikeColor_of_not_hash hhash, hcall]
    rfl

/-- Without letters there is no call. -/
theorem callBody?_triple (c : Rgb) (spacing : Spacing) {name : String}
    (hname : name ∈ ["rgb", "hsl"]) : callBody? name (c.triple spacing) = none := by
  rw [Option.eq_none_iff_forall_ne_some]
  intro inner hinner
  obtain ⟨blanks, -, hcall⟩ := callBody?_eq_some_iff.mp hinner
  obtain ⟨ch, hch, hisLetter⟩ : ∃ ch ∈ name.toList, Text.isLetter ch = true := by
    obtain rfl | rfl := List.mem_pair.mp hname
    · exact ⟨'r', by simp, by decide⟩
    · exact ⟨'h', by simp, by decide⟩
  have hmem : ch ∈ c.triple spacing := by
    rw [hcall]
    simp [hch]
  rw [isLetter_of_mem_triple hmem] at hisLetter
  exact nomatch hisLetter

/-- The components of a color alone are read back. -/
theorem triple_read_back (h : Text.trim s = c.triple spacing) :
    parse s = .ok c ∧ looksLikeColor s = true := by
  have hhash (digits : List Char) : Text.trim s ≠ '#' :: digits := by
    intro hs
    have hmem : '#' ∈ c.triple spacing := by
      rw [← h, hs]
      exact List.mem_cons_self
    -- A number sign is none of the characters of three numbers.
    obtain hcomma | hblank | hdigit := mem_of_isTriple (isTriple_triple c spacing) hmem
    · exact absurd hcomma (by decide)
    · exact absurd hblank (by decide)
    · exact absurd hdigit (by decide)
  have hlooks : looksLikeColor s = true := by
    rw [looksLikeColor_of_not_hash hhash, h, isTriple_triple, Bool.or_true]
  refine ⟨?_, hlooks⟩
  rw [parse_of_not_hash hhash, h, lower_triple, callBody?_triple c spacing (by simp),
    callBody?_triple c spacing (by simp)]
  simp only [hlooks, if_true]
  exact ofRgbComponents_triple c spacing

/-! ### Whole texts -/

namespace Spacing

/-- The blanks inside a triple that stay when the whole text is trimmed. -/
def inner (spacing : Spacing) : Spacing :=
  { spacing with
    red := ⟨[], spacing.red.after, rfl, spacing.red.blank_after⟩
    blue := ⟨spacing.blue.before, [], spacing.blue.blank_before, rfl⟩ }

/-- The blanks that do not. -/
def margin (spacing : Spacing) : Padding where
  before := spacing.outer.before ++ spacing.red.before
  after := spacing.blue.after ++ spacing.outer.after
  blank_before := by
    simpa [Text.isBlankText_iff, or_imp, forall_and] using
      ⟨Text.isBlankText_iff.mp spacing.outer.blank_before,
        Text.isBlankText_iff.mp spacing.red.blank_before⟩
  blank_after := by
    simpa [Text.isBlankText_iff, or_imp, forall_and] using
      ⟨Text.isBlankText_iff.mp spacing.blue.blank_after,
        Text.isBlankText_iff.mp spacing.outer.blank_after⟩

end Spacing

/-- The blanks at the ends of the numbers join those around the text. -/
theorem around_triple (c : Rgb) (spacing : Spacing) :
    spacing.outer.around (c.triple spacing) =
      spacing.margin.around (c.triple spacing.inner) := by
  simp [Padding.around, Rgb.triple, Spacing.margin, Spacing.inner, Text.joinWith]

/-- Without them the numbers are trimmed. -/
theorem trim_triple_inner (c : Rgb) (spacing : Spacing) :
    Text.trim (c.triple spacing.inner) = c.triple spacing.inner := by
  -- A digit stands at each end.
  obtain ⟨middle, hmiddle⟩ : ∃ middle, c.triple spacing.inner =
      Decimal.digits c.red.toNat ++ (middle ++ Decimal.digits c.blue.toNat) :=
    ⟨spacing.red.after ++ ',' :: spacing.green.around (Decimal.digits c.green.toNat) ++
      ',' :: spacing.blue.before,
      by simp [Rgb.triple, Spacing.inner, Padding.around, Text.joinWith]⟩
  obtain ⟨hstart, -⟩ := Text.trim_eq_self_iff.mp (trim_digits c.red.toNat)
  obtain ⟨-, hend⟩ := Text.trim_eq_self_iff.mp (trim_digits c.blue.toNat)
  have hne := Decimal.digits_ne_nil
  rw [hmiddle]
  exact Text.trim_append (hne _) hstart (List.append_ne_nil_of_right_ne_nil _ (hne _))
    (Text.trimEnd_append_self (hne _) hend middle)

/-- No blanks stand among hexadecimal digits. -/
theorem trim_hex (c : Rgb) : Text.trim c.hex.toList = c.hex.toList := by
  have hpair (b : UInt8) : ∀ ch ∈ hexPair b, Text.isBlank ch = false := by
    have hlt := b.toNat_lt
    simp only [hexPair, List.forall_mem_cons, List.not_mem_nil, false_imp_iff, implies_true,
      and_true]
    exact ⟨Text.isBlank_of_isAlphanumeric
        (Text.Percent.isAlphanumeric_upperHexDigit (by omega)),
      Text.isBlank_of_isAlphanumeric (Text.Percent.isAlphanumeric_upperHexDigit (by omega))⟩
  refine Text.trim_of_not_blank fun ch hch => ?_
  simp only [Rgb.hex, String.toList_ofList, List.cons_append, List.mem_cons, List.mem_append] at hch
  obtain rfl | (hred | hgreen) | hblue := hch
  · decide
  · exact hpair _ ch hred
  · exact hpair _ ch hgreen
  · exact hpair _ ch hblue

/-- A call begins with a letter and ends in a parenthesis. -/
theorem trim_call (inner : List Char) :
    Text.trim ("rgb(".toList ++ inner ++ [')']) = "rgb(".toList ++ inner ++ [')'] :=
  Text.trim_append (by simp) (Text.trimStart_eq_self_iff.mpr (by simp; decide)) (by simp) (by decide)

/-- **A written color is read back.** Its hexadecimal digits, its text and its components with commas
between them denote it, in any case of letters, with any blanks around the whole text and around each
component; and every such text looks like a color. -/
theorem written_read_back (c : Rgb) :
    (c.written .tight .hex = c.hex.toList ∧ c.written .afterCommas .call = c.text.toList ∧
      c.written .tight .triple =
        s!"{c.red.toNat},{c.green.toNat},{c.blue.toNat}".toList) ∧
    ∀ form spacing s, Text.lower s = Text.lower (c.written spacing form) →
      parse s = .ok c ∧ looksLikeColor s = true := by
  refine ⟨⟨?_, ?_, ?_⟩, ?_⟩
  · simp [Rgb.written, Spacing.tight, Padding.around, Padding.tight]
  · simp [Rgb.written, Rgb.triple, Rgb.text, Spacing.afterCommas, Padding.around, Padding.tight,
      Padding.space, Text.joinWith, Decimal.toDigits_eq_digits, toString]
  · simp [Rgb.written, Rgb.triple, Spacing.tight, Padding.around, Padding.tight, Text.joinWith,
      Decimal.toDigits_eq_digits, toString]
  · intro form spacing s h
    have htrim : Text.lower (Text.trim s) = Text.lower (Text.trim (c.written spacing form)) := by
      rw [Text.lower_trim, h, Text.lower_trim]
    cases form with
    | hex =>
      rw [Rgb.written, Padding.trim_around _ (trim_hex c)] at htrim
      exact hex_read_back htrim
    | call =>
      rw [Rgb.written, Padding.trim_around _ (trim_call _)] at htrim
      have hlower : Text.lower ("rgb(".toList ++ c.triple spacing ++ [')']) =
          "rgb(".toList ++ c.triple spacing ++ [')'] := by
        rw [Text.lower, List.map_append, List.map_append, ← Text.lower, ← Text.lower, ← Text.lower,
          lower_triple]
        rfl
      exact call_read_back (htrim.trans hlower)
    | triple =>
      -- The outermost blanks of the components are trimmed away with those of the text.
      rw [Rgb.written, around_triple, Padding.trim_around _ (trim_triple_inner c spacing)] at htrim
      exact triple_read_back (Text.eq_of_lower_eq htrim fun _ => isLetter_of_mem_triple)

end Launcher.Color
