import Launcher.Text.Ascii
import Launcher.Text.Utf8

namespace Launcher.Text.Percent

/-!
# Percent coding

* `encode` — every byte that is not unreserved is written as `%` and two hexadecimal digits.
* `decodeBytes`, `decode` — every such escape is replaced by the byte it names.
* `hasEscape` — whether a text holds an escape at all.

A `%` that two hexadecimal digits do not follow stands for itself.
-/

/-- The bytes that are written as they are: ASCII letters, digits, `-`, `_`, `.` and `~`. -/
def isUnreserved (b : UInt8) : Bool :=
  let c := Char.ofNat b.toNat
  isAlphanumeric c || c == '-' || c == '_' || c == '.' || c == '~'

/-- The written form of a byte; a space is a `+` if `spaceAsPlus`. -/
def encodeByte (spaceAsPlus : Bool) (b : UInt8) : List Char :=
  if isUnreserved b then [Char.ofNat b.toNat]
  else if spaceAsPlus && b == 0x20 then ['+']
  else ['%', upperHexDigit (b.toNat / 16), upperHexDigit (b.toNat % 16)]

/-- The written form of a text, byte by byte. -/
def encode (spaceAsPlus : Bool) (s : List Char) : List Char :=
  (Utf8.encode s).flatMap (encodeByte spaceAsPlus)

/-- The value of a byte that is a hexadecimal digit. -/
def byteHexValue? (b : UInt8) : Option Nat :=
  hexValue? (Char.ofNat b.toNat)

/-- The byte named by an escape that begins the sequence. -/
def escape? : List UInt8 → Option UInt8
  | mark :: high :: low :: _ =>
    if mark = 0x25 then do
      let h ← byteHexValue? high
      let l ← byteHexValue? low
      return UInt8.ofNat (h * 16 + l)
    else none
  | _ => none

/-- Replaces each escape by the byte it names and keeps every other byte. -/
def decodeBytes : List UInt8 → List UInt8
  | [] => []
  | b :: s =>
    match escape? (b :: s) with
    | some value => value :: decodeBytes (s.drop 2)
    | none => b :: decodeBytes s
termination_by s => s.length
decreasing_by
  · simp only [List.length_drop, List.length_cons]; omega
  · simp

/-- The text with its escapes replaced, malformed bytes read as `U+FFFD`. -/
def decode (s : List Char) : List Char :=
  Utf8.decodeLossy (decodeBytes (Utf8.encode s))

/-- Some escape begins in the byte sequence. -/
def hasEscapeBytes : List UInt8 → Bool
  | [] => false
  | b :: s => (escape? (b :: s)).isSome || hasEscapeBytes s

/-- Some escape occurs in the text. -/
def hasEscape (s : List Char) : Bool :=
  hasEscapeBytes (Utf8.encode s)

/-- The written form of a string. -/
def encoded (spaceAsPlus : Bool) (s : String) : String :=
  String.ofList (encode spaceAsPlus s.toList)

/-- The string with its escapes replaced. -/
def decoded (s : String) : String :=
  String.ofList (decode s.toList)

end Launcher.Text.Percent
