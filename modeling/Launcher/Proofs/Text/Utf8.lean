import Launcher.Text.Utf8

namespace Launcher.Text.Utf8

/-!
# Texts read back from their bytes

* `lead?_one`, `lead?_two`, `lead?_three`, `lead?_four` — what the first byte of a character
  promises, by the number of its bytes.
* `followers_six` — a further byte adds six bits.
* `decode_encodeChar` — the bytes of a character are read as the character, whatever follows them.
* `decodeLossy_encode` — the bytes of a text are read as the text.
* `encode_ascii` — a character of ASCII is its own byte.
* `length_encode` — how many bytes a text has.

The encoder is that of the library; the decoder is the one of the program, which may meet malformed
bytes as well. A first byte promises a number of further bytes and gives a range for the next one,
which keeps out longer forms than are needed, the surrogates, and what lies beyond the last
character. That a character was encoded in the shortest form is what puts its second byte into that
range, so this is where its validity is used. The proof goes by the number of bytes; what is left in
each case is that the bits of a number are put together again.
-/

variable {count low high bits : Nat}

/-! ### First bytes -/

/-- A byte of ASCII promises nothing further. -/
theorem lead?_one {n : Nat} (h : n ≤ 0x7F) :
    lead? (UInt8.ofNat n) = some (0, 0x80, 0xBF, n) := by
  have hn : (UInt8.ofNat n).toNat = n := UInt8.toNat_ofNat_of_lt (Nat.lt_of_le_of_lt h (by decide))
  unfold lead?
  simp only [hn]
  rw [if_pos h]

/-- A first byte of two; the values below two would have been written in one byte. -/
theorem lead?_two {n : Nat} (hlow : 2 ≤ n) (hhigh : n < 32) :
    lead? (UInt8.ofNat (n + 192)) = some (1, 0x80, 0xBF, n) := by
  have hn : (UInt8.ofNat (n + 192)).toNat = n + 192 :=
    UInt8.toNat_ofNat_of_lt (show n + 192 < 256 by omega)
  unfold lead?
  simp only [hn]
  rw [if_neg (by omega), if_pos (by omega), Nat.add_sub_cancel]

/-- After the least first byte the next one is bounded from below, as less is written in two bytes;
and after `0xED` from above, by the surrogates. -/
theorem lead?_three {n : Nat} (h : n < 16) :
    ∃ low high, lead? (UInt8.ofNat (n + 224)) = some (2, low, high, n) ∧
      ∀ m < 64, (n = 0 → 32 ≤ m) → (n = 13 → m < 32) → low ≤ m + 128 ∧ m + 128 ≤ high := by
  have hn : (UInt8.ofNat (n + 224)).toNat = n + 224 :=
    UInt8.toNat_ofNat_of_lt (show n + 224 < 256 by omega)
  unfold lead?
  simp only [hn]
  rw [if_neg (by omega), if_neg (by omega)]
  by_cases hzero : n = 0
  · subst hzero
    exact ⟨_, _, rfl, fun m hm hle _ => by have := hle rfl; omega⟩
  by_cases hsurrogate : n = 13
  · subst hsurrogate
    exact ⟨_, _, rfl, fun m hm _ hlt => by have := hlt rfl; omega⟩
  rw [if_neg (by omega), if_neg (by omega), if_pos (by omega), Nat.add_sub_cancel]
  exact ⟨_, _, rfl, fun m hm _ _ => by omega⟩

/-- After the least first byte the next one is bounded from below, as less is written in three bytes;
and after the greatest from above, by the last character. -/
theorem lead?_four {n : Nat} (h : n ≤ 4) :
    ∃ low high, lead? (UInt8.ofNat (n + 240)) = some (3, low, high, n) ∧
      ∀ m < 64, (n = 0 → 16 ≤ m) → (n = 4 → m < 16) → low ≤ m + 128 ∧ m + 128 ≤ high := by
  have hn : (UInt8.ofNat (n + 240)).toNat = n + 240 :=
    UInt8.toNat_ofNat_of_lt (show n + 240 < 256 by omega)
  unfold lead?
  simp only [hn]
  rw [if_neg (by omega), if_neg (by omega), if_neg (by omega), if_neg (by omega), if_neg (by omega)]
  by_cases hzero : n = 0
  · subst hzero
    exact ⟨_, _, rfl, fun m hm hle _ => by have := hle rfl; omega⟩
  by_cases hlast : n = 4
  · subst hlast
    exact ⟨_, _, rfl, fun m hm _ hlt => by have := hlt rfl; omega⟩
  rw [if_neg (by omega), if_neg (by omega), if_pos (by omega), Nat.add_sub_cancel]
  exact ⟨_, _, rfl, fun m hm _ _ => by omega⟩

/-! ### Characters -/

/-- A further byte adds six bits. -/
theorem followers_six {n : Nat} (h : low ≤ n % 64 + 128 ∧ n % 64 + 128 ≤ high) (s : List UInt8) :
    followers (count + 1) low high bits (UInt8.ofNat (n % 64 + 128) :: s) =
      followers count 0x80 0xBF (bits * 64 + n % 64) s := by
  have hn : (UInt8.ofNat (n % 64 + 128)).toNat = n % 64 + 128 :=
    UInt8.toNat_ofNat_of_lt (show n % 64 + 128 < 256 by omega)
  have hbits : (n % 64 + 128) % 64 = n % 64 := by omega
  rw [followers, hn, if_pos h, hbits]

/-- A further byte lies in the range of further bytes. -/
theorem six_bounds (n : Nat) : 0x80 ≤ n % 64 + 128 ∧ n % 64 + 128 ≤ 0xBF := by
  omega

theorem decode_cons {b : UInt8} (h : lead? b = some (count, low, high, bits)) (s : List UInt8) :
    decode (b :: s) = (followers count low high bits s).1.map Char.ofNat ::
      decode (followers count low high bits s).2 := by
  rw [decode, h]

/-- **The bytes of a character are read as the character**, whatever follows them. -/
theorem decode_encodeChar (c : Char) (rest : List UInt8) :
    decode (String.utf8EncodeChar c ++ rest) = some c :: decode rest := by
  obtain ⟨v, hv⟩ : ∃ v, c.val.toNat = v := ⟨_, rfl⟩
  have hchar : Char.ofNat v = c := by
    rw [← hv]
    exact Char.ofNat_toNat c
  -- A character is no surrogate and not beyond the last one.
  have hvalid : v < 0xD800 ∨ (0xDFFF < v ∧ v < 0x110000) := hv ▸ c.valid
  unfold String.utf8EncodeChar
  simp only [hv]
  split
  · -- One byte.
    have hlead := lead?_one (n := v) ‹_›
    rw [List.singleton_append, decode_cons hlead, followers, Option.map_some, hchar]
  split
  · -- Two bytes.
    have hlead := lead?_two (n := v / 64 % 32) (by omega) (by omega)
    have hbits : v / 64 % 32 * 64 + v % 64 = v := by omega
    rw [List.cons_append, List.singleton_append, decode_cons hlead,
      followers_six (six_bounds v), followers, hbits, Option.map_some, hchar]
  split
  · -- Three bytes.
    obtain ⟨low, high, hlead, hrange⟩ := lead?_three (n := v / 4096 % 16) (by omega)
    have hnext := hrange (v / 64 % 64) (by omega) (by omega) (by omega)
    have hbits : (v / 4096 % 16 * 64 + v / 64 % 64) * 64 + v % 64 = v := by omega
    rw [List.cons_append, List.cons_append, List.singleton_append, decode_cons hlead,
      followers_six hnext, followers_six (six_bounds v), followers, hbits, Option.map_some, hchar]
  · -- Four bytes.
    obtain ⟨low, high, hlead, hrange⟩ := lead?_four (n := v / 262144 % 8) (by omega)
    have hnext := hrange (v / 4096 % 64) (by omega) (by omega) (by omega)
    have hbits : ((v / 262144 % 8 * 64 + v / 4096 % 64) * 64 + v / 64 % 64) * 64 + v % 64 = v := by
      omega
    rw [List.cons_append, List.cons_append, List.cons_append, List.singleton_append,
      decode_cons hlead, followers_six hnext, followers_six (six_bounds (v / 64)),
      followers_six (six_bounds v), followers, hbits, Option.map_some, hchar]

/-! ### Texts -/

/-- The bytes of a text are read as its characters, one after the other. -/
theorem decode_encode (s : List Char) : decode (encode s) = s.map some := by
  induction s with
  | nil => simp [encode, decode]
  | cons c s ih =>
    unfold encode at ih ⊢
    rw [List.flatMap_cons, decode_encodeChar, ih]
    rfl

/-- **The bytes of a text are read as the text**, no part of them being malformed. -/
theorem decodeLossy_encode (s : List Char) : decodeLossy (encode s) = s := by
  unfold decodeLossy
  rw [decode_encode, List.map_map]
  exact List.map_id s

/-- A character of ASCII is its own byte. -/
theorem encode_ascii {c : Char} (h : c.toNat ≤ 0x7F) : encode [c] = [UInt8.ofNat c.toNat] := by
  rw [encode, List.flatMap_singleton, String.utf8EncodeChar]
  exact if_pos h

/-- The number of bytes of a text is that of all its characters together. -/
theorem length_encode (s : List Char) :
    (encode s).length = (s.map Char.utf8Size).foldr (· + ·) 0 := by
  rw [encode, List.length_flatMap, List.sum_eq_foldr]
  simp only [String.length_utf8EncodeChar]

/-- The bytes of two texts follow one another. -/
theorem encode_append (s t : List Char) : encode (s ++ t) = encode s ++ encode t :=
  List.flatMap_append

end Launcher.Text.Utf8
