import Launcher.Color.Literal
import Launcher.Intent
import Launcher.Proofs.Text.Pieces

namespace Launcher.Color

/-!
# What looks like a color, and what is one

Whether a query is taken for a color is decided by a predicate, before the parser sees it. The two
should agree; a text that the parser understands and the predicate withholds is lost to the user.
They agree on everything but one shape: a call with blanks between its name and the parenthesis,
which the parser allows for and the predicate does not.

* `isSome_ofHex?` — hexadecimal digits have the shape of a color if and only if they are one.
* `isCall_iff`, `callBody?_eq_some_iff` — a call, without and with blanks before its parenthesis.
* `IsSpacedCall` — the shape on which the two differ.
* `IsTaken` — a text is taken for a color by the parser, even if its components turn out to be
  wrong: none of the faults of the whole text is told. It composes, so the parsers of components are
  gone through one by one.
* `looksLikeColor_iff` — what looks like a color is what the parser takes for one, except for calls
  with blanks before the parenthesis, which do not look like colors (`spaced_call_withheld`).
-/

variable {s body lowered inner : List Char} {c : Char} {name : String}

/-! ### Hexadecimal digits -/

/-- Two characters are a byte if both are hexadecimal digits. -/
theorem isSome_hexByte? (high low : Char) :
    (hexByte? high low).isSome = (isHexDigit high && isHexDigit low) := by
  unfold hexByte? isHexDigit
  cases Text.hexValue? high <;> cases Text.hexValue? low <;> rfl

/-- Digits denote a color if and only if there are three or six of them, all hexadecimal. -/
theorem isSome_ofHex? (digits : List Char) : (ofHex? digits).isSome = isHexColor digits := by
  -- Three bytes are read if each of them is.
  have hbytes (r r' g g' b b' : Char) :
      (do return Rgb.mk (← hexByte? r r') (← hexByte? g g') (← hexByte? b b') : Option Rgb).isSome =
        ((isHexDigit r && isHexDigit r') && ((isHexDigit g && isHexDigit g') &&
          (isHexDigit b && isHexDigit b'))) := by
    rw [← isSome_hexByte?, ← isSome_hexByte?, ← isSome_hexByte?]
    cases hexByte? r r' <;> cases hexByte? g g' <;> cases hexByte? b b' <;> rfl
  unfold ofHex?
  split
  next r g b =>
    rw [hbytes]
    simp [isHexColor]
  next r r' g g' b b' =>
    rw [hbytes]
    simp [isHexColor, Bool.and_assoc]
  next hthree hsix =>
    have hlength : ¬(digits.length = 3 ∨ digits.length = 6) := by
      rintro (h | h)
      · obtain ⟨r, g, b, rfl⟩ := List.length_eq_three.mp h
        exact hthree r g b rfl
      · match digits, h with
        | [r, r', g, g', b, b'], _ => exact hsix r r' g g' b b' rfl
    simp [isHexColor, hlength]

/-! ### Calls -/

/-- A text ends in a character if that stands behind all others. -/
theorem endsWith_iff : endsWith c s = true ↔ ∃ init, s = init ++ [c] := by
  unfold endsWith
  rw [beq_iff_eq, List.getLast?_eq_some_iff]

/-- The parenthesis that opens a call does not close it too. -/
theorem endsWith_call (start rest : List Char) :
    endsWith ')' (start ++ '(' :: rest) = endsWith ')' rest := by
  unfold endsWith
  cases rest with
  | nil => simp
  | cons c rest => simp [List.getLast?_cons_cons]

/-- A call has its parenthesis right behind its name. -/
theorem isCall_iff : isCall name lowered = true ↔
    ∃ inner, lowered = name.toList ++ '(' :: inner ++ [')'] := by
  unfold isCall
  rw [Bool.and_eq_true, Option.isSome_iff_exists]
  constructor
  · rintro ⟨⟨rest, hrest⟩, hends⟩
    rw [Text.stripStart?_eq_some_iff, List.append_assoc, List.singleton_append] at hrest
    rw [hrest, endsWith_call, endsWith_iff] at hends
    obtain ⟨inner, rfl⟩ := hends
    exact ⟨inner, by simpa using hrest⟩
  · rintro ⟨inner, rfl⟩
    refine ⟨⟨inner ++ [')'], Text.stripStart?_eq_some_iff.mpr (by simp)⟩, ?_⟩
    exact endsWith_iff.mpr ⟨_, rfl⟩

/-- The parser allows for blanks before the parenthesis. -/
theorem callBody?_eq_some_iff : callBody? name lowered = some inner ↔
    ∃ blanks, Text.isBlankText blanks = true ∧
      lowered = name.toList ++ blanks ++ '(' :: inner ++ [')'] := by
  unfold callBody?
  rw [Option.bind_eq_bind, Option.bind_eq_some_iff]
  constructor
  · rintro ⟨rest, hrest, h⟩
    rw [Text.stripStart?_eq_some_iff] at hrest
    split at h
    next opened hopened =>
      split at h
      next hends =>
        obtain ⟨init, rfl⟩ := endsWith_iff.mp hends
        obtain rfl : init = inner := by simpa using h
        refine ⟨rest.takeWhile Text.isBlank, ?_, ?_⟩
        · exact Text.isBlankText_iff.mpr fun c hc => List.mem_takeWhile_imp hc
        · have hsplit := List.takeWhile_append_dropWhile (p := Text.isBlank) (l := rest)
          rw [show rest.dropWhile Text.isBlank = _ from hopened] at hsplit
          calc lowered
              = name.toList ++ rest := hrest
            _ = name.toList ++ (rest.takeWhile Text.isBlank ++ '(' :: (init ++ [')'])) := by
                rw [hsplit]
            _ = name.toList ++ rest.takeWhile Text.isBlank ++ '(' :: init ++ [')'] := by simp
      next => exact nomatch h
    next => exact nomatch h
  · rintro ⟨blanks, hblanks, rfl⟩
    refine ⟨blanks ++ '(' :: inner ++ [')'], Text.stripStart?_eq_some_iff.mpr (by simp), ?_⟩
    have hopened : Text.trimStart (blanks ++ '(' :: inner ++ [')']) = '(' :: (inner ++ [')']) := by
      unfold Text.trimStart
      rw [List.append_assoc, List.dropWhile_append_of_pos (Text.isBlankText_iff.mp hblanks)]
      exact List.dropWhile_cons_of_neg (by decide)
    rw [hopened]
    simp [endsWith_iff]

/-- A call with blanks before its parenthesis. -/
def IsSpacedCall (s : List Char) : Prop :=
  ∃ name ∈ ["rgb", "hsl"], ∃ blanks, blanks ≠ [] ∧ Text.isBlankText blanks = true ∧
    ∃ inner, Text.lower (Text.trim s) = name.toList ++ blanks ++ '(' :: inner ++ [')']

/-- What the parser takes for a call is one, or a spaced one. -/
theorem isCall_of_callBody? (name : String) (hname : name ∈ ["rgb", "hsl"])
    (h : callBody? name (Text.lower (Text.trim s)) = some inner) (hspaced : ¬IsSpacedCall s) :
    isCall name (Text.lower (Text.trim s)) = true := by
  obtain ⟨blanks, hblanks, hlowered⟩ := callBody?_eq_some_iff.mp h
  by_cases hnone : blanks = []
  · rw [hnone, List.append_nil] at hlowered
    exact isCall_iff.mpr ⟨inner, hlowered⟩
  · exact absurd ⟨name, hname, blanks, hnone, hblanks, inner, hlowered⟩ hspaced

/-- The fourth character of a spaced call is a blank, where a call has its parenthesis. -/
theorem IsSpacedCall.isCall_eq_false (h : IsSpacedCall s) (hname : name ∈ ["rgb", "hsl"]) :
    isCall name (Text.lower (Text.trim s)) = false := by
  have hlength : ∀ name ∈ ["rgb", "hsl"], name.toList.length = 3 := by decide
  obtain ⟨name', hname', blanks, hnone, hblanks, inner, hlowered⟩ := h
  obtain ⟨b, blanks, rfl⟩ := List.exists_cons_of_ne_nil hnone
  rw [Bool.eq_false_iff]
  intro hcall
  obtain ⟨inner', hlowered'⟩ := isCall_iff.mp hcall
  have hblank : Text.isBlank b = true := Text.isBlankText_iff.mp hblanks b List.mem_cons_self
  have hb : b = '(' := by
    have hfourth := congrArg (·[3]?) (hlowered.symm.trans hlowered')
    simpa [List.getElem?_append, hlength name hname, hlength name' hname'] using hfourth
  rw [hb] at hblank
  exact absurd hblank (by decide)

/-! ### Triples -/

/-- Digits, blanks and commas are all there is in three numbers. -/
theorem mem_of_isTriple (h : isTriple s = true) (hc : c ∈ s) :
    c = ',' ∨ Text.isBlank c = true ∨ Text.isDigit c = true := by
  unfold isTriple components at h
  simp only [List.length_map, Bool.and_eq_true, List.all_map, List.all_eq_true,
    Function.comp_apply] at h
  obtain hsep | ⟨piece, hpiece, hc⟩ :
      c ∈ [','] ∨ ∃ piece ∈ Text.splitOn [','] s, c ∈ piece := Text.mem_sep_or_splitOn hc
  · exact .inl (List.mem_singleton.mp hsep)
  · -- In a part, only blanks stand around the digits.
    obtain hblank | htrim := Text.isBlank_or_mem_trim hc
    · exact .inr (.inl hblank)
    · exact .inr (.inr ((h.2 piece hpiece).2 c htrim))

/-- A spaced call is no triple. -/
theorem IsSpacedCall.isTriple_eq_false (h : IsSpacedCall s) : isTriple (Text.trim s) = false := by
  obtain ⟨name, hname, blanks, -, -, inner, hlowered⟩ := h
  obtain ⟨d, rest, hd, hletter⟩ : ∃ d rest, name.toList = d :: rest ∧ Text.isLetter d = true := by
    obtain rfl | rfl : name = "rgb" ∨ name = "hsl" := by simpa using hname
    · exact ⟨'r', _, rfl, by decide⟩
    · exact ⟨'h', _, rfl, by decide⟩
  -- A name has letters, and a triple has none.
  have hmem : d ∈ Text.lower (Text.trim s) := by
    rw [hlowered, hd]
    exact List.mem_append_left _ (List.mem_append_left _ (List.mem_append_left _ List.mem_cons_self))
  obtain ⟨c, hc, hcd⟩ := List.mem_map.mp hmem
  have hcletter : Text.isLetter c = true := Text.isLetter_of_lowerChar hcd hletter
  rw [Bool.eq_false_iff]
  intro htriple
  obtain rfl | hblank | hdigit := mem_of_isTriple htriple hc
  · exact absurd hcletter (by decide)
  · rw [Text.isLetter_of_isBlank hblank] at hcletter
    exact nomatch hcletter
  · rw [Text.isLetter_of_isDigit hdigit] at hcletter
    exact nomatch hcletter

/-! ### Faults of shape -/

/-- The fault is one of the whole text, and not of a component. -/
def Fault.isOfShape : Fault → Bool
  | .notAColor | .invalidHex _ => true
  | .outOfRange _ | .malformed _ => false

/-- A text is taken for a color, even if its components turn out to be wrong. -/
def IsTaken {α : Type} (r : Except Fault α) : Prop :=
  ∀ fault, r = .error fault → fault.isOfShape = false

namespace IsTaken

variable {α β : Type}

theorem ok (a : α) : IsTaken (.ok a) := nofun

/-- A fault of a component is none of the whole text. -/
theorem error {fault : Fault} (h : fault.isOfShape = false) : IsTaken (.error fault : Except Fault α) :=
  fun _ heq => Except.error.inj heq ▸ h

/-- What is read one after the other is taken if each part is. -/
theorem bind {r : Except Fault α} {f : α → Except Fault β} (hr : IsTaken r)
    (hf : ∀ a, IsTaken (f a)) : IsTaken (r >>= f) := by
  cases r with
  | ok a => exact hf a
  | error fault => exact error (hr fault rfl)

/-- A wrong number of components is no fault of the whole text. -/
theorem threeComponents (body : List Char) : IsTaken (threeComponents body) := by
  unfold Color.threeComponents
  split
  · exact ok _
  · exact error rfl

/-- Nor is a component that is no byte. -/
theorem byteComponent (raw : List Char) : IsTaken (byteComponent raw) := by
  unfold Color.byteComponent
  split
  · exact error rfl
  · split
    · exact ok _
    · exact error rfl

/-- Nor is one that is no number, or out of range. -/
theorem numberComponent (high : Float) (raw : List Char) : IsTaken (numberComponent high raw) := by
  unfold Color.numberComponent
  dsimp only
  split
  · exact error rfl
  · split
    · exact ok _
    · exact error rfl

/-- Components are never refused for the shape of the text. -/
theorem ofRgbComponents (body : List Char) : IsTaken (ofRgbComponents body) :=
  (threeComponents body).bind fun (r, g, b) =>
    (byteComponent r).bind fun _ => (byteComponent g).bind fun _ => (byteComponent b).bind fun _ => ok _

/-- Nor are those of the other model. -/
theorem ofHslComponents (body : List Char) : IsTaken (ofHslComponents body) :=
  (threeComponents body).bind fun (h, s, l) =>
    (numberComponent 360.0 h).bind fun _ => (numberComponent 100.0 s).bind fun _ =>
      (numberComponent 100.0 l).bind fun _ => ok _

end IsTaken

/-! ### Literals -/

/-- The blanks around a text do not matter for its look. -/
theorem looksLikeColor_trim (s : List Char) : looksLikeColor (Text.trim s) = looksLikeColor s := by
  unfold looksLikeColor
  rw [Text.trim_trim]

/-- After a `#`, what looks like a color is one. -/
theorem looksLikeColor_iff_of_hash {digits : List Char} (h : Text.trim s = '#' :: digits) :
    looksLikeColor s = true ↔ IsTaken (parse s) := by
  have hlooks : looksLikeColor s = isHexColor digits := by
    unfold looksLikeColor
    rw [h]
    rfl
  rw [hlooks, ← isSome_ofHex?]
  cases hhex : ofHex? digits with
  | some color =>
    have hparse : parse s = .ok color := by simp [parse, h, hhex]
    rw [hparse]
    exact iff_of_true rfl (.ok color)
  | none =>
    have hparse : parse s = .error (.invalidHex (String.ofList digits)) := by
      simp [parse, h, hhex]
    rw [hparse]
    exact iff_of_false nofun fun htaken => nomatch htaken _ rfl

/-- A text that begins with a number sign is no call. -/
theorem not_isSpacedCall_of_hash {digits : List Char} (h : Text.trim s = '#' :: digits) :
    ¬IsSpacedCall s := by
  rintro ⟨name, hname, blanks, -, -, inner, hlowered⟩
  rw [h] at hlowered
  obtain rfl | rfl : name = "rgb" ∨ name = "hsl" := by simpa using hname
  · exact absurd (List.cons.inj hlowered).1 (by decide)
  · exact absurd (List.cons.inj hlowered).1 (by decide)

/-- Without a `#`, what looks like a color is a call or a triple. -/
theorem looksLikeColor_of_not_hash (h : ∀ digits, Text.trim s ≠ '#' :: digits) :
    looksLikeColor s = (isCall "rgb" (Text.lower (Text.trim s)) ||
      isCall "hsl" (Text.lower (Text.trim s)) || isTriple (Text.trim s)) := by
  unfold looksLikeColor
  split
  next digits hbody => exact absurd hbody (h digits)
  next => rfl

/-- Without a number sign the parser tries calls, and then three numbers. -/
theorem parse_of_not_hash (h : ∀ digits, Text.trim s ≠ '#' :: digits) :
    parse s =
      match callBody? "rgb" (Text.lower (Text.trim s)), callBody? "hsl" (Text.lower (Text.trim s)) with
      | some inner, _ => ofRgbComponents inner
      | none, some inner => do return (← ofHslComponents inner).toRgb
      | none, none =>
        if looksLikeColor s then ofRgbComponents (Text.trim s) else .error .notAColor := by
  rw [← looksLikeColor_trim]
  unfold parse
  split
  next digits hbody => exact absurd hbody (h digits)
  next => rfl

/-- What looks like a color is what the parser takes for one, spaced calls apart. -/
theorem looksLikeColor_iff_isTaken (s : List Char) :
    looksLikeColor s = true ↔ IsTaken (parse s) ∧ ¬IsSpacedCall s := by
  by_cases hhash : ∃ digits, Text.trim s = '#' :: digits
  · obtain ⟨digits, hbody⟩ := hhash
    rw [looksLikeColor_iff_of_hash hbody, and_iff_left (not_isSpacedCall_of_hash hbody)]
  · have hbody : ∀ digits, Text.trim s ≠ '#' :: digits := fun digits h => hhash ⟨digits, h⟩
    have hlooks := looksLikeColor_of_not_hash hbody
    rw [parse_of_not_hash hbody]
    constructor
    · intro h
      refine ⟨?_, ?_⟩
      · -- The components decide no more than whether they are right.
        split
        next => exact .ofRgbComponents _
        next => exact (IsTaken.ofHslComponents _).bind fun _ => .ok _
        next =>
          rw [if_pos h]
          exact .ofRgbComponents _
      · intro hspaced
        rw [hlooks, hspaced.isCall_eq_false (by simp), hspaced.isCall_eq_false (by simp),
          hspaced.isTriple_eq_false] at h
        exact nomatch h
    · rintro ⟨htaken, hspaced⟩
      split at htaken
      next inner hinner =>
        rw [hlooks, isCall_of_callBody? "rgb" (by simp) hinner hspaced]
        rfl
      next inner _ hinner =>
        rw [hlooks, isCall_of_callBody? "hsl" (by simp) hinner hspaced, Bool.or_true]
        rfl
      next =>
        split at htaken
        next h => exact h
        next => exact nomatch htaken _ rfl

/-- **The color predicate and the color parser** agree on every text but spaced calls: what looks like a
color is neither refused as none nor for its hexadecimal digits, and no other text is taken for a
color, unless it is a call with blanks before its parenthesis. -/
theorem looksLikeColor_iff (s : List Char) :
    looksLikeColor s = true ↔
      parse s ≠ .error .notAColor ∧ (∀ digits, parse s ≠ .error (.invalidHex digits)) ∧
        ¬IsSpacedCall s := by
  rw [looksLikeColor_iff_isTaken, ← and_assoc]
  refine and_congr_left fun _ => ?_
  constructor
  · intro h
    refine ⟨fun heq => ?_, fun digits heq => ?_⟩
    · exact nomatch h _ heq
    · exact nomatch h _ heq
  · rintro ⟨hnone, hhex⟩ fault heq
    cases fault with
    | notAColor => exact absurd heq hnone
    | invalidHex digits => exact absurd heq (hhex digits)
    | outOfRange | malformed => rfl

/-- A color that the parser understands does not look like one, so the query is not taken for a
color. -/
theorem spaced_call_withheld :
    let s := "rgb (1,2,3)".toList
    (parse s).toOption = some ⟨1, 2, 3⟩ ∧ looksLikeColor s = false ∧
      Intent.classify s = .freeText "rgb (1,2,3)" := by
  intro s
  have htool : Tool.Call.parse? s = none := Option.isNone_iff_eq_none.mp (by decide +kernel)
  have hlooks : looksLikeColor s = false := by decide +kernel
  have hconversion : Conversion.parse? s = none := Option.isNone_iff_eq_none.mp (by decide +kernel)
  have harith : Arith.looksLikeExpression s = false := by decide +kernel
  refine ⟨by decide +kernel, hlooks, ?_⟩
  unfold Intent.classify
  rw [htool, hlooks, hconversion, harith]
  rfl

end Launcher.Color
