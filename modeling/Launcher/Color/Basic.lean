import Launcher.Color.Scalar
import Launcher.Decimal.Digits
import Launcher.Text.Ascii

namespace Launcher.Color

/-!
# Colors in two models

* `Rgb` — three bytes; `Rgb.hex` and `Rgb.text` write them.
* `Hsl` — hue in degrees, saturation and lightness in percent; `Hsl.text` writes them rounded.
* `Rgb.toHsl`, `Hsl.toRgb` — the change of model, over any `Scalar`.
-/

/-- Red, green and blue. -/
structure Rgb where
  red : UInt8
  green : UInt8
  blue : UInt8
deriving Repr, DecidableEq

/-- Hue in degrees, saturation and lightness in percent. -/
structure Hsl (α : Type) where
  hue : α
  saturation : α
  lightness : α
deriving Repr

/-! ### Texts -/

/-- Two upper-case hexadecimal digits. -/
def hexPair (b : UInt8) : List Char :=
  [Text.upperHexDigit (b.toNat / 16), Text.upperHexDigit (b.toNat % 16)]

/-- The six hexadecimal digits of a color after a `#`. -/
def Rgb.hex (c : Rgb) : String :=
  String.ofList ('#' :: hexPair c.red ++ hexPair c.green ++ hexPair c.blue)

/-- The decimal components of a color. -/
def Rgb.text (c : Rgb) : String :=
  s!"rgb({c.red.toNat}, {c.green.toNat}, {c.blue.toNat})"

/-- The whole number next to a double, within the range of 32 bits. -/
def roundWord (x : Float) : Nat :=
  x.round.toUInt32.toNat

/-- The components of a color as whole numbers. -/
def Hsl.text (c : Hsl Float) : String :=
  let hue := roundWord c.hue % 360
  s!"hsl({hue}, {roundWord c.saturation}%, {roundWord c.lightness}%)"

/-! ### Change of model -/

section
variable {α : Type} [Scalar α]
open Scalar

/-- A component between zero and one. -/
def unitOfByte (b : UInt8) : α :=
  ofNat b.toNat / ofNat 255

/-- The byte of a component between zero and one. -/
def byteOfUnit (x : α) : UInt8 :=
  UInt8.ofNat (round (clamp x * ofNat 255))

/-- The hue in degrees of components whose largest is `high`, with `spread` between the largest and
the smallest. -/
def hueOf (r g b high spread : α) : α :=
  if eq high r then ofNat 60 * modulo ((g - b) / spread) (ofNat 6)
  else if eq high g then ofNat 60 * ((b - r) / spread + ofNat 2)
  else ofNat 60 * ((r - g) / spread + ofNat 4)

/-- A color by hue, saturation and lightness; a gray has hue and saturation zero. -/
def Rgb.toHsl (c : Rgb) : Hsl α :=
  let r : α := unitOfByte c.red
  let g : α := unitOfByte c.green
  let b : α := unitOfByte c.blue
  let high := Scalar.max (Scalar.max r g) b
  let low := Scalar.min (Scalar.min r g) b
  let spread := high - low
  let lightness := (high + low) / ofNat 2
  if eq spread (ofNat 0) then ⟨ofNat 0, ofNat 0, lightness * ofNat 100⟩
  else
    let saturation := spread / (ofNat 1 - abs (ofNat 2 * lightness - ofNat 1))
    ⟨modulo (hueOf r g b high spread) (ofNat 360), saturation * ofNat 100, lightness * ofNat 100⟩

/-- The two largest components of a hue, placed by the sixth of the circle in which it lies. -/
def sector (n : Nat) (chroma second : α) : α × α × α :=
  match n with
  | 0 => (chroma, second, ofNat 0)
  | 1 => (second, chroma, ofNat 0)
  | 2 => (ofNat 0, chroma, second)
  | 3 => (ofNat 0, second, chroma)
  | 4 => (second, ofNat 0, chroma)
  | _ => (chroma, ofNat 0, second)

/-- A color by its components, each rounded to a byte. -/
def Hsl.toRgb (c : Hsl α) : Rgb :=
  let s := clamp (c.saturation / ofNat 100)
  let l := clamp (c.lightness / ofNat 100)
  let h := modulo c.hue (ofNat 360)
  let chroma := (ofNat 1 - abs (ofNat 2 * l - ofNat 1)) * s
  let second := chroma * (ofNat 1 - abs (modulo (h / ofNat 60) (ofNat 2) - ofNat 1))
  let base := l - chroma / ofNat 2
  let (r, g, b) := sector (floor (h / ofNat 60)) chroma second
  ⟨byteOfUnit (r + base), byteOfUnit (g + base), byteOfUnit (b + base)⟩

end

end Launcher.Color
