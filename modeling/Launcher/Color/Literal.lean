import Launcher.Color.Basic
import Launcher.Decimal.Reader
import Launcher.Text.Blank

namespace Launcher.Color

/-!
# Color literals

* `looksLikeColor` — the shapes that are taken for colors, whatever their components are.
* `parse` — the color of a literal: `#` and hexadecimal digits, `rgb(…)`, `hsl(…)`, or three decimal
  numbers with commas between them.
* `parseHsl` — hue, saturation and lightness as an `hsl(…)` literal writes them.
-/

/-- Why a text is not a color. -/
inductive Fault where
  | notAColor
  | invalidHex (digits : String)
  | outOfRange (component : String)
  | malformed (component : String)
deriving Repr, DecidableEq

/-- The wording of a fault. -/
def Fault.message : Fault → String
  | .notAColor => "not a color literal"
  | .invalidHex digits => s!"invalid hex color '{digits}'"
  | .outOfRange component => s!"component out of range: {component}"
  | .malformed component => s!"malformed color component '{component}'"

/-! ### Shapes -/

/-- The trimmed pieces between commas. -/
def components (s : List Char) : List (List Char) :=
  (Text.splitOn [','] s).map Text.trim

/-- A character that has a hexadecimal value. -/
def isHexDigit (c : Char) : Bool :=
  (Text.hexValue? c).isSome

/-- The text ends with `c`. -/
def endsWith (c : Char) (s : List Char) : Bool :=
  s.getLast? == some c

/-- Three or six hexadecimal digits. -/
def isHexColor (digits : List Char) : Bool :=
  (digits.length == 3 || digits.length == 6) && digits.all isHexDigit

/-- The shape of a function call with the given name, in any case of letters. -/
def isCall (name : String) (lowered : List Char) : Bool :=
  (Text.stripStart? (name.toList ++ ['(']) lowered).isSome && endsWith ')' lowered

/-- Three non-empty runs of digits with commas between them. -/
def isTriple (s : List Char) : Bool :=
  let parts := components s
  parts.length == 3 && parts.all fun part => !part.isEmpty && part.all Text.isDigit

/-- A text that is taken for a color, even if its components turn out to be out of range. -/
def looksLikeColor (s : List Char) : Bool :=
  match Text.trim s with
  | '#' :: digits => isHexColor digits
  | body =>
    let lowered := Text.lower body
    isCall "rgb" lowered || isCall "hsl" lowered || isTriple body

/-! ### Components -/

/-- A byte of two hexadecimal digits. -/
def hexByte? (high low : Char) : Option UInt8 := do
  return UInt8.ofNat ((← Text.hexValue? high) * 16 + (← Text.hexValue? low))

/-- The color of three or six hexadecimal digits; of three, each digit is doubled. -/
def ofHex? : List Char → Option Rgb
  | [r, g, b] => do return ⟨← hexByte? r r, ← hexByte? g g, ← hexByte? b b⟩
  | [r, r', g, g', b, b'] => do return ⟨← hexByte? r r', ← hexByte? g g', ← hexByte? b b'⟩
  | _ => none

/-- What stands in the parentheses of a call of `name`; blanks may stand before them. -/
def callBody? (name : String) (lowered : List Char) : Option (List Char) := do
  let rest ← Text.stripStart? name.toList lowered
  match Text.trimStart rest with
  | '(' :: rest => if endsWith ')' rest then some rest.dropLast else none
  | _ => none

/-- Three components with commas between them. -/
def threeComponents (body : List Char) : Except Fault (List Char × List Char × List Char) :=
  match components body with
  | [a, b, c] => .ok (a, b, c)
  | _ => .error (.malformed (String.ofList body))

/-- A decimal component below 256. -/
def byteComponent (raw : List Char) : Except Fault UInt8 :=
  match Decimal.readWord? 32 raw with
  | none => .error (.malformed (String.ofList raw))
  | some n => if n < 256 then .ok (UInt8.ofNat n) else .error (.outOfRange (String.ofList raw))

/-- The text without the copies of `mark` that end it. -/
def dropMarks (mark s : List Char) : List Char :=
  go s.length s.reverse
where
  /-- Drops up to `fuel` copies of the reversed mark from the beginning of a reversed text. -/
  go : (fuel : Nat) → List Char → List Char
    | 0, s => s.reverse
    | fuel + 1, s =>
      match Text.stripStart? mark.reverse s with
      | some rest => go fuel rest
      | none => s.reverse

/-- A number between zero and `high`, with a percent sign or `deg` after it. -/
def numberComponent (high : Float) (raw : List Char) : Except Fault Float :=
  let cleaned := Text.trim (dropMarks "deg".toList (dropMarks ['%'] raw))
  match Decimal.readFloat? cleaned with
  | none => .error (.malformed (String.ofList raw))
  | some x => if 0.0 ≤ x ∧ x ≤ high then .ok x else .error (.outOfRange (String.ofList raw))

/-- The color of three decimal components. -/
def ofRgbComponents (body : List Char) : Except Fault Rgb := do
  let (r, g, b) ← threeComponents body
  return ⟨← byteComponent r, ← byteComponent g, ← byteComponent b⟩

/-- The color of a hue and two percentages. -/
def ofHslComponents (body : List Char) : Except Fault (Hsl Float) := do
  let (h, s, l) ← threeComponents body
  let hue ← numberComponent 360.0 h
  let saturation ← numberComponent 100.0 s
  let lightness ← numberComponent 100.0 l
  return ⟨Decimal.euclideanRemainder hue 360.0, saturation, lightness⟩

/-! ### Literals -/

/-- The color that a literal denotes. -/
def parse (s : List Char) : Except Fault Rgb :=
  match Text.trim s with
  | '#' :: digits =>
    match ofHex? digits with
    | some c => .ok c
    | none => .error (.invalidHex (String.ofList digits))
  | body =>
    let lowered := Text.lower body
    match callBody? "rgb" lowered, callBody? "hsl" lowered with
    | some inner, _ => ofRgbComponents inner
    | none, some inner => do return (← ofHslComponents inner).toRgb
    | none, none => if looksLikeColor body then ofRgbComponents body else .error .notAColor

/-- Hue, saturation and lightness of a literal that writes them. -/
def parseHsl (s : List Char) : Except Fault (Hsl Float) :=
  match callBody? "hsl" (Text.lower (Text.trim s)) with
  | some inner => ofHslComponents inner
  | none => .error .notAColor

end Launcher.Color
