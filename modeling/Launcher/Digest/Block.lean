import Launcher.Text.Ascii

namespace Launcher.Digest

/-!
# Words, padding and blocks of a digest

* `rotateLeft`, `rotateRight` — rotation of a word of 32 bits.
* `pad` — a message with a one bit, zeros and its length in bits, up to whole blocks.
* `blocks` — the blocks of sixteen words of a padded message.
* `hex` — the text of a digest.
-/

/-- Rotates a word to the left, `n` between 1 and 31. -/
def rotateLeft (x n : UInt32) : UInt32 :=
  (x <<< n) ||| (x >>> (32 - n))

/-- Rotates a word to the right, `n` between 1 and 31. -/
def rotateRight (x n : UInt32) : UInt32 :=
  (x >>> n) ||| (x <<< (32 - n))

/-! ### Byte order -/

/-- The bytes of a word, least significant first. -/
def littleEndianBytes (x : UInt32) : List UInt8 :=
  [x.toUInt8, (x >>> 8).toUInt8, (x >>> 16).toUInt8, (x >>> 24).toUInt8]

/-- The bytes of a word, most significant first. -/
def bigEndianBytes (x : UInt32) : List UInt8 :=
  (littleEndianBytes x).reverse

/-- The word of four bytes, least significant first. -/
def littleEndian32 (a b c d : UInt8) : UInt32 :=
  a.toUInt32 ||| (b.toUInt32 <<< 8) ||| (c.toUInt32 <<< 16) ||| (d.toUInt32 <<< 24)

/-- The word of four bytes, most significant first. -/
def bigEndian32 (a b c d : UInt8) : UInt32 :=
  littleEndian32 d c b a

/-- The eight bytes of a length, least significant first. -/
def littleEndian64 (n : Nat) : List UInt8 :=
  (List.range 8).map fun i => UInt8.ofNat (n >>> (8 * i) % 256)

/-- The eight bytes of a length, most significant first. -/
def bigEndian64 (n : Nat) : List UInt8 :=
  (littleEndian64 n).reverse

/-! ### Blocks -/

/-- The message, a one bit, zeros, and the length in bits in eight bytes: a multiple of 64 bytes. -/
def pad (lengthBytes : Nat → List UInt8) (bytes : List UInt8) : List UInt8 :=
  let n := bytes.length
  let zeros := (119 - n % 64) % 64
  bytes ++ 0x80 :: List.replicate zeros 0 ++ lengthBytes (8 * n)

/-- The words of a sequence of bytes, four by four. -/
def wordsOf (word : UInt8 → UInt8 → UInt8 → UInt8 → UInt32) : List UInt8 → List UInt32
  | a :: b :: c :: d :: rest => word a b c d :: wordsOf word rest
  | _ => []

/-- The blocks of sixteen words, `count` of them. -/
def chunks : (count : Nat) → List UInt32 → List (Array UInt32)
  | 0, _ => []
  | count + 1, s => (s.take 16).toArray :: chunks count (s.drop 16)

/-- The blocks of sixteen words of a padded message. -/
def blocks (word : UInt8 → UInt8 → UInt8 → UInt8 → UInt32) (bytes : List UInt8) :
    List (Array UInt32) :=
  chunks (bytes.length / 64) (wordsOf word bytes)

/-- The lower-case hexadecimal text of a byte sequence. -/
def hex (bytes : List UInt8) : List Char :=
  bytes.flatMap Text.hexByte

end Launcher.Digest
