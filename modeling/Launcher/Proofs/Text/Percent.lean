import Launcher.Proofs.Text.Pieces
import Launcher.Proofs.Text.Utf8
import Launcher.Text.Percent

namespace Launcher.Text.Percent

/-!
# Percent coding read back

* `decodeBytes_encodeByte` — the written form of a byte is read as the byte, whatever follows it.
* `decode_encode` — so an encoded text is decoded as the text.
* `replaceAll_plus` — spaces written as `+` and spaces written as escapes.
* `isWritten` — the characters of encoded texts.
* `encoded_lossless` — what is encoded can be decoded, and is made of those characters.
* `decode_of_hasEscape` — a text without escapes is decoded as itself.

A text is encoded byte by byte, after it was turned into bytes. An unreserved byte is written as its
character, and every other one as a percent sign and two digits. What is written is ASCII, so its
bytes are its characters, and the decoder meets them in the same order. It has to be seen that what
is written for one byte is not read together with what follows: an unreserved byte is no percent
sign, and an escape is complete. The bytes that come out are those of the text, so the text is read
back from them without a malformed part (`Utf8.decodeLossy_encode`).

Nothing is assumed of the text. It may hold percent signs and plus signs of its own; these are not
unreserved, so they are written as escapes, and no plus sign in what is written stands for itself.
-/

variable {b : UInt8} {c : Char} {spaceAsPlus : Bool}

/-! ### Unreserved bytes and hexadecimal digits -/

/-- A byte is the code point of a character. -/
theorem toNat_ofNat_byte (b : UInt8) : (Char.ofNat b.toNat).toNat = b.toNat := by
  have hlt := b.toNat_lt
  exact toNat_ofNat (by omega)

/-- Letters and digits are ASCII. -/
theorem le_of_isAlphanumeric (h : isAlphanumeric c = true) : c.toNat ≤ 0x7F := by
  unfold isAlphanumeric at h
  rw [Bool.or_eq_true, isLetter_iff, isDigit_iff] at h
  omega

/-- An unreserved byte is its own character, and one of ASCII. -/
theorem encode_of_isUnreserved (h : isUnreserved b = true) :
    Utf8.encode [Char.ofNat b.toNat] = [b] := by
  have hascii : (Char.ofNat b.toNat).toNat ≤ 0x7F := by
    unfold isUnreserved at h
    simp only [Bool.or_eq_true, beq_iff_eq] at h
    obtain (((halnum | hc) | hc) | hc) | hc := h
    · exact le_of_isAlphanumeric halnum
    all_goals
      rw [hc]
      decide
  rw [Utf8.encode_ascii hascii, toNat_ofNat_byte, UInt8.ofNat_toNat]

/-- A byte that is not written as it is. -/
theorem ne_of_isUnreserved {reserved : UInt8} (h : isUnreserved b = true)
    (hreserved : isUnreserved reserved = false) : b ≠ reserved := by
  rintro rfl
  rw [h] at hreserved
  exact nomatch hreserved

/-- A hexadecimal digit is a letter or a digit. -/
theorem isAlphanumeric_upperHexDigit {n : Nat} (h : n < 16) :
    isAlphanumeric (upperHexDigit n) = true := by
  revert n
  decide

/-- It has the value that it was written for. -/
theorem hexValue?_upperHexDigit {n : Nat} (h : n < 16) :
    hexValue? (upperHexDigit n) = some n := by
  revert n
  decide

/-- The byte of a hexadecimal digit. -/
def digitByte (n : Nat) : UInt8 :=
  UInt8.ofNat (upperHexDigit n).toNat

/-- A hexadecimal digit is one byte. -/
theorem encode_upperHexDigit {n : Nat} (h : n < 16) : Utf8.encode [upperHexDigit n] = [digitByte n] :=
  Utf8.encode_ascii (le_of_isAlphanumeric (isAlphanumeric_upperHexDigit h))

/-- The byte of a digit has the value of the digit. -/
theorem byteHexValue?_digitByte {n : Nat} (h : n < 16) : byteHexValue? (digitByte n) = some n := by
  have hascii : (upperHexDigit n).toNat ≤ 0x7F :=
    le_of_isAlphanumeric (isAlphanumeric_upperHexDigit h)
  have hbyte : (digitByte n).toNat = (upperHexDigit n).toNat :=
    UInt8.toNat_ofNat_of_lt (Nat.lt_of_le_of_lt hascii (by decide))
  rw [byteHexValue?, hbyte, Char.ofNat_toNat, hexValue?_upperHexDigit h]

/-! ### Escapes -/

/-- An escape at the beginning is read as its byte. -/
theorem decodeBytes_of_escape {s : List UInt8} {value : UInt8}
    (h : escape? (b :: s) = some value) : decodeBytes (b :: s) = value :: decodeBytes (s.drop 2) := by
  rw [decodeBytes, h]

/-- A byte that begins none is read as itself. -/
theorem decodeBytes_of_no_escape {s : List UInt8} (h : escape? (b :: s) = none) :
    decodeBytes (b :: s) = b :: decodeBytes s := by
  rw [decodeBytes, h]

/-- Only a percent sign begins an escape. -/
theorem escape?_of_ne (h : b ≠ 0x25) (s : List UInt8) : escape? (b :: s) = none := by
  unfold escape?
  split
  next mark high low rest heq =>
    obtain ⟨rfl, -⟩ := List.cons.inj heq
    exact if_neg h
  next => rfl

/-- The two digits of a byte, behind a percent sign, are its escape. -/
theorem escape?_digitBytes (b : UInt8) (rest : List UInt8) :
    escape? (0x25 :: digitByte (b.toNat / 16) :: digitByte (b.toNat % 16) :: rest) = some b := by
  have hlt := b.toNat_lt
  have hhigh := byteHexValue?_digitByte (n := b.toNat / 16) (by omega)
  have hlow := byteHexValue?_digitByte (n := b.toNat % 16) (Nat.mod_lt _ (by decide))
  have hvalue : b.toNat / 16 * 16 + b.toNat % 16 = b.toNat := Nat.div_add_mod' b.toNat 16
  rw [escape?, if_pos rfl, hhigh, hlow]
  show some (UInt8.ofNat (b.toNat / 16 * 16 + b.toNat % 16)) = some b
  rw [hvalue, UInt8.ofNat_toNat]

/-- The written form of a byte that is not unreserved. -/
theorem encode_escape (b : UInt8) :
    Utf8.encode ['%', upperHexDigit (b.toNat / 16), upperHexDigit (b.toNat % 16)] =
      [0x25, digitByte (b.toNat / 16), digitByte (b.toNat % 16)] := by
  have hlt := b.toNat_lt
  have hhigh := encode_upperHexDigit (n := b.toNat / 16) (by omega)
  have hlow := encode_upperHexDigit (n := b.toNat % 16) (Nat.mod_lt _ (by decide))
  have hmark : Utf8.encode ['%'] = [0x25] := Utf8.encode_ascii (by decide)
  calc Utf8.encode (['%'] ++ ([upperHexDigit (b.toNat / 16)] ++ [upperHexDigit (b.toNat % 16)]))
      = [0x25] ++ ([digitByte (b.toNat / 16)] ++ [digitByte (b.toNat % 16)]) := by
        rw [Utf8.encode_append, Utf8.encode_append, hmark, hhigh, hlow]

/-! ### Decoding what was encoded -/

/-- The written form of a byte is read as the byte, whatever follows it. -/
theorem decodeBytes_encodeByte (b : UInt8) (rest : List UInt8) :
    decodeBytes (Utf8.encode (encodeByte false b) ++ rest) = b :: decodeBytes rest := by
  unfold encodeByte
  split
  next h =>
    rw [encode_of_isUnreserved h]
    exact decodeBytes_of_no_escape (escape?_of_ne (ne_of_isUnreserved h (by decide)) rest)
  next =>
    rw [Bool.false_and, if_neg Bool.false_ne_true, encode_escape]
    exact decodeBytes_of_escape (escape?_digitBytes b rest)

/-- What was written for some bytes is read as these bytes. -/
theorem decodeBytes_encode (s : List Char) :
    decodeBytes (Utf8.encode (encode false s)) = Utf8.encode s := by
  unfold encode
  -- The induction is on the bytes of the text: one character of it can become several escapes.
  generalize Utf8.encode s = bytes
  induction bytes with
  | nil => rw [List.flatMap_nil, Utf8.encode, List.flatMap_nil, decodeBytes]
  | cons b bytes ih => rw [List.flatMap_cons, Utf8.encode_append, decodeBytes_encodeByte, ih]

/-- **An encoded text is decoded as the text.** -/
theorem decode_encode (s : List Char) : decode (encode false s) = s := by
  rw [decode, decodeBytes_encode, Utf8.decodeLossy_encode]

/-! ### Spaces as plus signs -/

/-- A plus sign is written for a space alone. -/
theorem replacePlus_encodeByte (b : UInt8) :
    (encodeByte true b).flatMap (fun c => if c = '+' then "%20".toList else [c]) =
      encodeByte false b := by
  have hplus (n : Nat) (h : n < 16) : upperHexDigit n ≠ '+' := by
    revert n
    decide
  have hlt := b.toNat_lt
  unfold encodeByte
  split
  next h =>
    have hc : Char.ofNat b.toNat ≠ '+' := by
      intro hc
      rw [isUnreserved, hc] at h
      exact absurd h (by decide)
    rw [List.flatMap_singleton, if_neg hc]
  next =>
    rw [Bool.false_and, if_neg Bool.false_ne_true, Bool.true_and]
    split
    next hspace =>
      rw [beq_iff_eq] at hspace
      rw [hspace]
      decide
    next =>
      -- An escape has no plus sign, so it stays as it is.
      simp [hplus (b.toNat / 16) (by omega), hplus (b.toNat % 16) (by omega)]

/-- With its plus signs replaced, a text is written without them. -/
theorem replaceAll_plus (s : List Char) :
    replaceAll ['+'] "%20".toList (encode true s) = encode false s := by
  rw [replaceAll_singleton, encode, encode, List.flatMap_assoc]
  exact List.flatMap_congr fun b _ => replacePlus_encodeByte b

/-! ### Nothing is written as nothing -/

/-- No byte is written as nothing. -/
theorem encodeByte_ne_nil (spaceAsPlus : Bool) (b : UInt8) : encodeByte spaceAsPlus b ≠ [] := by
  unfold encodeByte
  split
  · exact List.cons_ne_nil _ _
  · split <;> exact List.cons_ne_nil _ _

/-- No text but the empty one is written as nothing. -/
theorem encode_ne_nil {spaceAsPlus : Bool} {s : List Char} (h : s ≠ []) :
    encode spaceAsPlus s ≠ [] := by
  obtain ⟨c, rest, rfl⟩ := List.exists_cons_of_ne_nil h
  obtain ⟨b, bytes, hbytes⟩ := List.exists_cons_of_ne_nil (String.utf8EncodeChar_ne_nil (c := c))
  unfold encode Utf8.encode
  rw [List.flatMap_cons, hbytes, List.cons_append, List.flatMap_cons]
  exact List.append_ne_nil_of_left_ne_nil (encodeByte_ne_nil spaceAsPlus b) _

/-! ### The characters of encoded texts -/

/-- The characters of encoded texts: ASCII letters and digits, `-`, `_`, `.`, `~`, `%`, and `+` if
spaces are written so. -/
def isWritten (spaceAsPlus : Bool) (c : Char) : Bool :=
  isAlphanumeric c || "-_.~%".toList.contains c || (spaceAsPlus && c == '+')

/-- The written form of a byte is made of the characters of encoded texts. -/
theorem isWritten_of_mem_encodeByte (h : c ∈ encodeByte spaceAsPlus b) :
    isWritten spaceAsPlus c = true := by
  have hlt := b.toNat_lt
  unfold encodeByte at h
  split at h
  next hunreserved =>
    rw [List.mem_singleton] at h
    rw [isUnreserved, ← h] at hunreserved
    simp only [Bool.or_eq_true, beq_iff_eq] at hunreserved
    -- An unreserved byte is a letter, a digit, or one of the four signs.
    obtain (((halnum | rfl) | rfl) | rfl) | rfl := hunreserved
    · rw [isWritten, halnum]
      rfl
    all_goals rfl
  next =>
    split at h
    next hspace =>
      rw [List.mem_singleton] at h
      rw [Bool.and_eq_true] at hspace
      rw [h, hspace.1]
      rfl
    next =>
      simp only [List.mem_cons, List.not_mem_nil, or_false] at h
      obtain rfl | rfl | rfl := h
      · rfl
      · rw [isWritten, isAlphanumeric_upperHexDigit (by omega)]
        rfl
      · rw [isWritten, isAlphanumeric_upperHexDigit (Nat.mod_lt _ (by decide))]
        rfl

@[simp] theorem toList_encoded (spaceAsPlus : Bool) (s : String) :
    (encoded spaceAsPlus s).toList = encode spaceAsPlus s.toList :=
  String.toList_ofList

/-- An encoded string is decoded as the string. -/
theorem decoded_encoded (s : String) : decoded (encoded false s) = s := by
  rw [decoded, toList_encoded, decode_encode, String.ofList_toList]

/-- **Percent coding is lossless.** An encoded string is decoded as the string, also if its spaces are
written as `+` and each `+` is replaced by the escape of a space first; and it is made of letters,
digits and five or six signs, none of which separates, quotes or stands for a space. -/
theorem encoded_lossless (s : String) :
    decoded (encoded false s) = s ∧
      decoded (replaceAllIn "+" "%20" (encoded true s)) = s ∧
      ∀ spaceAsPlus, (encoded spaceAsPlus s).toList.all (isWritten spaceAsPlus) = true := by
  -- With the replacement the two ways to write a space come to the same text.
  have hplus : replaceAllIn "+" "%20" (encoded true s) = encoded false s := by
    rw [replaceAllIn, toList_encoded]
    exact congrArg String.ofList (replaceAll_plus s.toList)
  refine ⟨decoded_encoded s, by rw [hplus, decoded_encoded], fun spaceAsPlus => ?_⟩
  rw [toList_encoded, List.all_eq_true]
  intro c hc
  obtain ⟨b, -, hb⟩ := List.mem_flatMap.mp hc
  exact isWritten_of_mem_encodeByte hb

/-! ### Texts without escapes -/

/-- Bytes without an escape are decoded as themselves. -/
theorem decodeBytes_of_hasEscapeBytes {s : List UInt8} (h : hasEscapeBytes s = false) :
    decodeBytes s = s := by
  induction s with
  | nil => rw [decodeBytes]
  | cons b s ih =>
    rw [hasEscapeBytes, Bool.or_eq_false_iff] at h
    rw [decodeBytes_of_no_escape (Option.not_isSome_iff_eq_none.mp (by simp [h.1])), ih h.2]

/-- A text without escapes is decoded as itself. -/
theorem decode_of_hasEscape {s : List Char} (h : hasEscape s = false) : decode s = s := by
  rw [decode, decodeBytes_of_hasEscapeBytes h, Utf8.decodeLossy_encode]

end Launcher.Text.Percent
