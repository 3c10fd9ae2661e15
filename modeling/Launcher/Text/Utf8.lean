namespace Launcher.Text.Utf8

/-!
# UTF-8

* `encode` — the bytes of a text.
* `decode` — one entry for each character of a byte sequence and for each maximal part that begins
  no character.
* `decode?` — the text of a well-formed byte sequence.
* `decodeLossy` — the text with `U+FFFD` for each malformed part.
-/

/-- The bytes of a text. -/
def encode (s : List Char) : List UInt8 :=
  s.flatMap String.utf8EncodeChar

/-- The number of bytes of a text. -/
def size (s : List Char) : Nat :=
  (encode s).length

/-- What a first byte promises: the number of bytes that follow it, the range of the first of them,
and the bits it gives to the code point. -/
def lead? (b : UInt8) : Option (Nat × Nat × Nat × Nat) :=
  let n := b.toNat
  if n ≤ 0x7F then some (0, 0x80, 0xBF, n)
  else if 0xC2 ≤ n ∧ n ≤ 0xDF then some (1, 0x80, 0xBF, n - 0xC0)
  else if n = 0xE0 then some (2, 0xA0, 0xBF, 0)
  else if n = 0xED then some (2, 0x80, 0x9F, 0xD)
  else if 0xE1 ≤ n ∧ n ≤ 0xEF then some (2, 0x80, 0xBF, n - 0xE0)
  else if n = 0xF0 then some (3, 0x90, 0xBF, 0)
  else if n = 0xF4 then some (3, 0x80, 0x8F, 4)
  else if 0xF1 ≤ n ∧ n ≤ 0xF3 then some (3, 0x80, 0xBF, n - 0xF0)
  else none

/-- Reads `count` further bytes of a character into `bits`, the first of them between `low` and
`high`; the answer holds the code point, or nothing if a byte is missing, and the bytes left. -/
def followers : (count low high bits : Nat) → List UInt8 → Option Nat × List UInt8
  | 0, _, _, bits, s => (some bits, s)
  | _ + 1, _, _, _, [] => (none, [])
  | count + 1, low, high, bits, b :: s =>
    if low ≤ b.toNat ∧ b.toNat ≤ high then
      followers count 0x80 0xBF (bits * 64 + b.toNat % 64) s
    else (none, b :: s)

theorem length_followers_le (count low high bits : Nat) (s : List UInt8) :
    (followers count low high bits s).2.length ≤ s.length := by
  induction s generalizing count low high bits with
  | nil => cases count <;> simp [followers]
  | cons b s ih =>
    cases count with
    | zero => simp [followers]
    | succ count =>
      simp only [followers]
      split
      · exact Nat.le_succ_of_le (ih ..)
      · simp

/-- The characters of a byte sequence, with `none` for each maximal part that begins no
character. -/
def decode : List UInt8 → List (Option Char)
  | [] => []
  | b :: s =>
    match lead? b with
    | none => none :: decode s
    | some (count, low, high, bits) =>
      (followers count low high bits s).1.map Char.ofNat ::
        decode (followers count low high bits s).2
termination_by s => s.length
decreasing_by
  · simp
  · exact Nat.lt_succ_of_le (length_followers_le ..)

/-- The text of a well-formed byte sequence. -/
def decode? (bytes : List UInt8) : Option (List Char) :=
  (decode bytes).mapM id

/-- The text of a byte sequence, each malformed part read as `U+FFFD`. -/
def decodeLossy (bytes : List UInt8) : List Char :=
  (decode bytes).map (·.getD '\uFFFD')

example : decodeLossy [0xE2, 0x82, 0x41] = ['\uFFFD', 'A'] := by cbv

end Launcher.Text.Utf8
