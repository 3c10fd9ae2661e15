import Launcher.Proofs.Text.Percent
import Mathlib.Data.List.Sort

namespace Launcher.Text.Percent

/-!
# Percent escapes and what takes their place

* `IsEscapeAt` — three bytes from a position on are an escape; no two of them share a byte
  (`IsEscapeAt.apart`).
* `Gives` — the byte that a position gives to a decoded sequence, if it gives one.
* `IsReplaced`, `isReplaced_iff` — the decoded sequence has the given bytes in their order, and no
  other has.
* `length_decodeBytes` — each escape makes a sequence two bytes shorter.
* `hasEscapeBytes_iff` — an escape is found wherever one begins.
* `decode_replaces` — so exactly the escapes of a text are replaced.

The decoder goes through the bytes from left to right and takes the first escape that it finds. What
it should do is said without such an order: every position either begins an escape, and gives the
byte that the escape names, or lies in one and gives nothing, or lies outside and gives its own
byte. That this is a description at all needs `apart`: a percent sign is no hexadecimal digit, so an
escape does not begin within another one.

The induction is that of the decoder, which takes away one byte or three. The places of the rest are
then counted from another beginning, and they mean the same there as long as no escape was cut apart
(`gives_drop`).
-/

variable {s out out' : List UInt8} {i j k n : Nat} {b value value' : UInt8} {c : Char}

/-! ### Hexadecimal digits -/

/-- A character is found again by its distance from another. -/
theorem ofNat_add_sub {base : Nat} (h : base ≤ c.toNat) :
    Char.ofNat (base + (c.toNat - base)) = c := by
  rw [Nat.add_sub_cancel' h, Char.ofNat_toNat]

/-- One of six letters, counted from ten on. -/
theorem letter_digit {low high : Char} (hspan : high.toNat = low.toNat + 5)
    (h : (low ≤ c && c ≤ high) = true) :
    c.toNat - low.toNat + 10 < 16 ∧
      Char.ofNat (low.toNat + (c.toNat - low.toNat + 10 - 10)) = c := by
  obtain ⟨hlow, hhigh⟩ := between_iff.mp h
  rw [Nat.add_sub_cancel]
  exact ⟨by omega, ofNat_add_sub hlow⟩

/-- A character has the value of the digit that it is, in either case. -/
theorem hexValue?_eq_some_iff :
    hexValue? c = some n ↔ n < 16 ∧ (c = hexDigit n ∨ c = upperHexDigit n) := by
  constructor
  · intro h
    unfold hexValue? at h
    split at h
    next hdigit =>
      obtain ⟨hlow, hhigh⟩ := between_iff.mp hdigit
      have hlt : c.toNat - '0'.toNat < 10 :=
        Nat.sub_lt_left_of_lt_add hlow (Nat.lt_succ_of_le hhigh)
      obtain rfl : c.toNat - '0'.toNat = n := Option.some.inj h
      refine ⟨by omega, .inl ?_⟩
      rw [hexDigit, if_pos hlt, ofNat_add_sub hlow]
    next =>
      split at h
      next hlower =>
        obtain ⟨hlt, hletter⟩ := letter_digit rfl hlower
        obtain rfl : c.toNat - 'a'.toNat + 10 = n := Option.some.inj h
        refine ⟨hlt, .inl ?_⟩
        rw [hexDigit, if_neg (by omega), hletter]
      next =>
        split at h
        next hupper =>
          obtain ⟨hlt, hletter⟩ := letter_digit rfl hupper
          obtain rfl : c.toNat - 'A'.toNat + 10 = n := Option.some.inj h
          refine ⟨hlt, .inr ?_⟩
          rw [upperHexDigit, if_neg (by omega), hletter]
        next => cases h
  · rintro ⟨hn, rfl | rfl⟩
    · revert n
      decide
    · exact hexValue?_upperHexDigit hn

/-- A byte is the hexadecimal digit of a value, in either case. -/
def IsHexDigit (n : Nat) (b : UInt8) : Prop :=
  Char.ofNat b.toNat = hexDigit n ∨ Char.ofNat b.toNat = upperHexDigit n

theorem byteHexValue?_eq_some_iff : byteHexValue? b = some n ↔ n < 16 ∧ IsHexDigit n b :=
  hexValue?_eq_some_iff

/-- A percent sign is no hexadecimal digit. -/
theorem not_isHexDigit_mark (h : n < 16) : ¬IsHexDigit n 0x25 := by
  intro hdigit
  exact nomatch byteHexValue?_eq_some_iff.mpr ⟨h, hdigit⟩

/-! ### Escapes -/

/-- Three bytes from a position on are the escape of a byte: a percent sign and the two hexadecimal
digits of the byte. -/
structure IsEscapeAt (s : List UInt8) (i : Nat) (value : UInt8) : Prop where
  mark : s[i]? = some 0x25
  high : ∃ b, s[i + 1]? = some b ∧ IsHexDigit (value.toNat / 16) b
  low : ∃ b, s[i + 2]? = some b ∧ IsHexDigit (value.toNat % 16) b

/-- Positions are counted from where a sequence begins. -/
theorem isEscapeAt_drop : IsEscapeAt (s.drop k) i value ↔ IsEscapeAt s (k + i) value := by
  constructor
  · rintro ⟨hmark, hhigh, hlow⟩
    simp only [List.getElem?_drop] at hmark hhigh hlow
    exact ⟨hmark, hhigh, hlow⟩
  · rintro ⟨hmark, hhigh, hlow⟩
    refine ⟨?_, ?_, ?_⟩ <;> rw [List.getElem?_drop]
    exacts [hmark, hhigh, hlow]

/-- The decoder finds an escape at the beginning exactly if there is one. -/
theorem escape?_eq_some_iff : escape? s = some value ↔ IsEscapeAt s 0 value := by
  have hlt := value.toNat_lt
  constructor
  · intro h
    unfold escape? at h
    split at h
    next mark high low rest =>
      split at h
      next hmark =>
        obtain ⟨x, hx, h⟩ := Option.bind_eq_some_iff.mp h
        obtain ⟨y, hy, h⟩ := Option.bind_eq_some_iff.mp h
        obtain ⟨hxlt, hhigh⟩ := byteHexValue?_eq_some_iff.mp hx
        obtain ⟨hylt, hlow⟩ := byteHexValue?_eq_some_iff.mp hy
        obtain rfl : UInt8.ofNat (x * 16 + y) = value := Option.some.inj h
        -- The value is at most 255, so it is made of its two digits again.
        have hvalue : (UInt8.ofNat (x * 16 + y)).toNat = x * 16 + y :=
          UInt8.toNat_ofNat_of_lt (show x * 16 + y < 256 by omega)
        have hdiv : (x * 16 + y) / 16 = x := by omega
        have hmod : (x * 16 + y) % 16 = y := by omega
        refine ⟨congrArg some hmark, ⟨high, rfl, ?_⟩, low, rfl, ?_⟩
        · rwa [hvalue, hdiv]
        · rwa [hvalue, hmod]
      next => cases h
    next => cases h
  · rintro ⟨hmark, ⟨high, hhigh, hx⟩, low, hlow, hy⟩
    match s with
    | mark :: high' :: low' :: rest =>
      obtain rfl : mark = 0x25 := Option.some.inj hmark
      obtain rfl : high' = high := Option.some.inj hhigh
      obtain rfl : low' = low := Option.some.inj hlow
      have hxvalue := byteHexValue?_eq_some_iff.mpr ⟨by omega, hx⟩
      have hyvalue := byteHexValue?_eq_some_iff.mpr ⟨by omega, hy⟩
      rw [escape?, if_pos rfl, hxvalue, hyvalue]
      show some (UInt8.ofNat (value.toNat / 16 * 16 + value.toNat % 16)) = some value
      rw [Nat.div_add_mod', UInt8.ofNat_toNat]

theorem escape?_drop_eq_some_iff : escape? (s.drop i) = some value ↔ IsEscapeAt s i value :=
  escape?_eq_some_iff.trans isEscapeAt_drop

instance (s : List UInt8) (i : Nat) (value : UInt8) : Decidable (IsEscapeAt s i value) :=
  decidable_of_iff _ escape?_drop_eq_some_iff

namespace IsEscapeAt

/-- An escape names one byte. -/
theorem unique (h : IsEscapeAt s i value) (h' : IsEscapeAt s i value') : value = value' := by
  rw [← escape?_drop_eq_some_iff] at h h'
  exact Option.some.inj (h.symm.trans h')

/-- Behind the percent sign an escape has digits. -/
theorem ne_mark (h : IsEscapeAt s i value) (hj : i < j ∧ j < i + 3) : s[j]? ≠ some 0x25 := by
  have hlt := value.toNat_lt
  intro hmark
  obtain rfl | rfl : j = i + 1 ∨ j = i + 2 := by omega
  · obtain ⟨b, hb, hdigit⟩ := h.high
    obtain rfl : b = 0x25 := Option.some.inj (hb.symm.trans hmark)
    exact not_isHexDigit_mark (by omega) hdigit
  · obtain ⟨b, hb, hdigit⟩ := h.low
    obtain rfl : b = 0x25 := Option.some.inj (hb.symm.trans hmark)
    exact not_isHexDigit_mark (by omega) hdigit

/-- **Escapes do not overlap.** -/
theorem apart (h : IsEscapeAt s i value) (h' : IsEscapeAt s j value') (hij : i < j) :
    i + 3 ≤ j := by
  -- The second percent sign would be a digit of the first escape.
  by_contra hlt
  exact h.ne_mark ⟨hij, by omega⟩ h'.mark

end IsEscapeAt

/-! ### The given bytes -/

/-- A position lies in an escape. -/
def InEscape (s : List UInt8) (i : Nat) : Prop :=
  ∃ j value, IsEscapeAt s j value ∧ j ≤ i ∧ i < j + 3

/-- The byte that a position gives to the decoded sequence: where an escape begins the one that it
names, and outside of escapes the one that stands there. -/
inductive Gives (s : List UInt8) (i : Nat) (b : UInt8) : Prop
  | named (h : IsEscapeAt s i b)
  | kept (h : s[i]? = some b) (houtside : ¬InEscape s i)

/-- A sequence has the bytes that the positions of another one give, in their order. -/
def IsReplaced (s out : List UInt8) : Prop :=
  ∃ places : List Nat, places.Pairwise (· < ·) ∧ (∀ i, i ∈ places ↔ ∃ b, Gives s i b) ∧
    List.Forall₂ (Gives s) places out

/-- A position gives one byte at most. -/
theorem Gives.unique {b' : UInt8} (h : Gives s i b) (h' : Gives s i b') : b = b' := by
  cases h with
  | named h =>
    cases h' with
    | named h' => exact h.unique h'
    | kept _ houtside => exact absurd ⟨i, b, h, Nat.le_refl i, by omega⟩ houtside
  | kept h houtside =>
    cases h' with
    | named h' => exact absurd ⟨i, b', h', Nat.le_refl i, by omega⟩ houtside
    | kept h' => exact Option.some.inj (h.symm.trans h')

/-- No position of the empty sequence gives a byte. -/
theorem not_gives_nil : ¬Gives [] i b := by
  rintro (h | ⟨h, -⟩)
  · exact nomatch h.mark
  · exact nomatch h

/-- The digits of an escape give nothing. -/
theorem IsEscapeAt.not_gives (h : IsEscapeAt s i value) (hj : i < j ∧ j < i + 3) :
    ¬Gives s j b := by
  rintro (h' | ⟨-, houtside⟩)
  · exact h.ne_mark hj h'.mark
  · exact houtside ⟨i, value, h, by omega, hj.2⟩

/-- What was given is determined by where it comes from. -/
theorem IsReplaced.unique (h : IsReplaced s out) (h' : IsReplaced s out') : out = out' := by
  obtain ⟨places, hsorted, hmem, hgiven⟩ := h
  obtain ⟨places', hsorted', hmem', hgiven'⟩ := h'
  obtain rfl : places = places' :=
    hsorted.eq_of_mem_iff hsorted' fun i => (hmem i).trans (hmem' i).symm
  clear hsorted hsorted' hmem hmem'
  -- The places are the same, and each of them gives one byte.
  induction hgiven generalizing out' with
  | nil =>
    cases hgiven'
    rfl
  | cons hfirst _ ih =>
    cases hgiven' with
    | cons hfirst' hrest' => rw [hfirst.unique hfirst', ih hrest']

/-! ### What decoding comes to -/

/-- Where no escape is cut apart, the rest of a sequence gives what it gives by itself. -/
theorem gives_drop (hcut : ∀ j value, IsEscapeAt s j value → j < k → j + 3 ≤ k) :
    Gives (s.drop k) i b ↔ Gives s (k + i) b := by
  -- A position of the rest lies in an escape of the rest exactly if it lies in one at all.
  have hin : InEscape (s.drop k) i ↔ InEscape s (k + i) := by
    constructor
    · rintro ⟨j, value, h, hle, hlt⟩
      exact ⟨k + j, value, isEscapeAt_drop.mp h, by omega, by omega⟩
    · rintro ⟨j, value, h, hle, hlt⟩
      -- An escape that reaches into the rest begins there.
      have hj : k ≤ j := by
        by_contra hj
        have := hcut j value h (by omega)
        omega
      obtain ⟨j, rfl⟩ := Nat.exists_eq_add_of_le hj
      exact ⟨j, value, isEscapeAt_drop.mpr h, by omega, by omega⟩
  constructor
  · rintro (h | ⟨h, houtside⟩)
    · exact .named (isEscapeAt_drop.mp h)
    · exact .kept (List.getElem?_drop ▸ h) (hin.not.mp houtside)
  · rintro (h | ⟨h, houtside⟩)
    · exact .named (isEscapeAt_drop.mpr h)
    · exact .kept (List.getElem?_drop ▸ h) (hin.not.mpr houtside)

/-- A sequence is replaced by what its first position gives and what takes the place of the rest, if
the positions between give nothing. -/
theorem IsReplaced.of_drop (hk : 0 < k)
    (hcut : ∀ j value, IsEscapeAt s j value → j < k → j + 3 ≤ k) (hfirst : Gives s 0 b)
    (hnone : ∀ i b, 0 < i ∧ i < k → ¬Gives s i b) (h : IsReplaced (s.drop k) out) :
    IsReplaced s (b :: out) := by
  obtain ⟨places, hsorted, hmem, hgiven⟩ := h
  -- Behind the first place come those of the rest, moved by what was cut off.
  refine ⟨0 :: places.map (k + ·), ?_, fun i => ?_, .cons hfirst ?_⟩
  · rw [List.pairwise_cons, List.pairwise_map]
    refine ⟨fun i hi => ?_, hsorted.imp fun hlt => Nat.add_lt_add_left hlt k⟩
    obtain ⟨_, _, rfl⟩ := List.mem_map.mp hi
    omega
  · rw [List.mem_cons, List.mem_map]
    constructor
    · rintro (rfl | ⟨i, hi, rfl⟩)
      · exact ⟨b, hfirst⟩
      · obtain ⟨b, hb⟩ := (hmem i).mp hi
        exact ⟨b, (gives_drop hcut).mp hb⟩
    · rintro ⟨b', hb'⟩
      by_cases hi : i < k
      · refine .inl (Nat.eq_zero_of_not_pos fun hpos => ?_)
        exact hnone i b' ⟨hpos, hi⟩ hb'
      · obtain ⟨i, rfl⟩ := Nat.exists_eq_add_of_le (Nat.le_of_not_lt hi)
        exact .inr ⟨i, (hmem i).mpr ⟨b', (gives_drop hcut).mpr hb'⟩, rfl⟩
  · rw [List.forall₂_map_left_iff]
    exact hgiven.imp fun _ _ => (gives_drop hcut).mp

/-- **The decoder** gives the bytes that the positions give, in their order. -/
theorem isReplaced_decodeBytes (s : List UInt8) : IsReplaced s (decodeBytes s) := by
  fun_induction decodeBytes s with
  | case1 => exact ⟨[], .nil, fun i => by simp [not_gives_nil], .nil⟩
  | case2 b s value h ih =>
    rw [escape?_eq_some_iff] at h
    refine IsReplaced.of_drop (k := 3) (by omega) (fun j value' hj hlt => ?_) (.named h)
      (fun i b hi => h.not_gives (by omega)) ih
    -- The escape at the beginning fills the three bytes.
    by_contra hcut
    have := h.apart hj (by omega)
    omega
  | case3 b s h ih =>
    have hnone : ∀ value, ¬IsEscapeAt (b :: s) 0 value := fun value hvalue => by
      rw [escape?_eq_some_iff.mpr hvalue] at h
      cases h
    refine IsReplaced.of_drop (k := 1) (by omega) (fun j value hj hlt => ?_) (.kept rfl ?_)
      (fun i b hi => by omega) ih
    · obtain rfl : j = 0 := by omega
      exact absurd hj (hnone value)
    · rintro ⟨j, value, hj, hle, -⟩
      obtain rfl : j = 0 := by omega
      exact hnone value hj

/-- **Decoding replaces exactly the escapes.** -/
theorem isReplaced_iff : IsReplaced s out ↔ out = decodeBytes s := by
  constructor
  · exact fun h => h.unique (isReplaced_decodeBytes s)
  · rintro rfl
    exact isReplaced_decodeBytes s

/-! ### How many escapes there are -/

/-- An escape begins at a position. -/
def BeginsEscape (s : List UInt8) (i : Nat) : Prop :=
  ∃ value, IsEscapeAt s i value

instance (s : List UInt8) (i : Nat) : Decidable (BeginsEscape s i) :=
  decidable_of_iff ((escape? (s.drop i)).isSome = true) <|
    Option.isSome_iff_exists.trans (exists_congr fun _ => escape?_drop_eq_some_iff)

/-- The number of positions at which an escape begins. -/
def escapeCount (s : List UInt8) : Nat :=
  (List.range s.length).countP fun i => BeginsEscape s i

/-- At the beginning an escape is found by the decoder. -/
theorem beginsEscape_zero : BeginsEscape s 0 ↔ (escape? s).isSome = true :=
  (Option.isSome_iff_exists.trans (exists_congr fun _ => escape?_eq_some_iff)).symm

/-- Positions move by one behind a first byte. -/
theorem beginsEscape_cons : BeginsEscape (b :: s) (i + 1) ↔ BeginsEscape s i := by
  rw [Nat.add_comm]
  exact exists_congr fun _ => isEscapeAt_drop.symm

/-- A first byte counts if it begins an escape. -/
theorem escapeCount_cons :
    escapeCount (b :: s) = escapeCount s + if BeginsEscape (b :: s) 0 then 1 else 0 := by
  unfold escapeCount
  rw [List.length_cons, List.range_succ_eq_map, List.countP_cons, List.countP_map]
  simp only [decide_eq_true_eq]
  congr 1
  exact List.countP_congr fun i _ => by simp [beginsEscape_cons]

/-- One that begins none does not count. -/
theorem escapeCount_of_not (h : ¬BeginsEscape (b :: s) 0) :
    escapeCount (b :: s) = escapeCount s := by
  rw [escapeCount_cons, if_neg h, Nat.add_zero]

/-- Nor do any number of them. -/
theorem escapeCount_drop (h : ∀ i < k, ¬BeginsEscape s i) :
    escapeCount (s.drop k) = escapeCount s := by
  induction k generalizing s with
  | zero => rw [List.drop_zero]
  | succ k ih =>
    cases s with
    | nil => rfl
    | cons b s =>
      rw [List.drop_succ_cons, escapeCount_of_not (h 0 (Nat.succ_pos k))]
      exact ih fun i hi => beginsEscape_cons.not.mp (h (i + 1) (Nat.succ_lt_succ hi))

/-- **Each escape makes a sequence two bytes shorter.** -/
theorem length_decodeBytes (s : List UInt8) :
    (decodeBytes s).length + 2 * escapeCount s = s.length := by
  fun_induction decodeBytes s with
  | case1 => rfl
  | case2 b s value h ih =>
    rw [escape?_eq_some_iff] at h
    -- None begins at the two digits, which are there.
    have hdigits : escapeCount (s.drop 2) = escapeCount s := escapeCount_drop fun i hi hbegins => by
      obtain ⟨value', h'⟩ := beginsEscape_cons.mpr hbegins
      exact h.ne_mark (by omega) h'.mark
    have hlength : 2 < (b :: s).length := by
      obtain ⟨_, hlow, -⟩ := h.low
      exact (List.getElem?_eq_some_iff.mp hlow).1
    have hfirst : BeginsEscape (b :: s) 0 := ⟨value, h⟩
    rw [hdigits, List.length_drop] at ih
    rw [List.length_cons] at hlength
    rw [escapeCount_cons, if_pos hfirst, List.length_cons, List.length_cons]
    omega
  | case3 b s h ih =>
    have hnot : ¬BeginsEscape (b :: s) 0 := by rw [beginsEscape_zero, h]; exact Bool.false_ne_true
    rw [escapeCount_of_not hnot, List.length_cons, List.length_cons]
    omega

/-- **An escape is found wherever one begins.** -/
theorem hasEscapeBytes_iff : hasEscapeBytes s = true ↔ ∃ i, BeginsEscape s i := by
  induction s with
  | nil =>
    constructor
    · rintro ⟨⟩
    · rintro ⟨i, value, h⟩
      exact nomatch h.mark
  | cons b s ih =>
    rw [hasEscapeBytes, Bool.or_eq_true, ← beginsEscape_zero, ih]
    constructor
    · rintro (h | ⟨i, h⟩)
      · exact ⟨0, h⟩
      · exact ⟨i + 1, beginsEscape_cons.mpr h⟩
    · rintro ⟨i, h⟩
      cases i with
      | zero => exact .inl h
      | succ i => exact .inr ⟨i, beginsEscape_cons.mp h⟩

/-! ### Main theorem -/

/-- **Exactly the escapes of a text are replaced.** They do not overlap. The decoded bytes are those
that the positions of the text's bytes give: for each escape the one that it names, and every other
byte. So an escape is found if and only if there is one, a text in which none is found is decoded as
itself, and each escape makes the bytes two fewer. -/
theorem decode_replaces (s : List Char) :
    (∀ i j value value', IsEscapeAt (Utf8.encode s) i value →
      IsEscapeAt (Utf8.encode s) j value' → i < j → i + 3 ≤ j) ∧
    (∀ out, IsReplaced (Utf8.encode s) out ↔ out = decodeBytes (Utf8.encode s)) ∧
    (hasEscape s = true ↔ ∃ i, BeginsEscape (Utf8.encode s) i) ∧
    (hasEscape s = false → decodeBytes (Utf8.encode s) = Utf8.encode s ∧ decode s = s) ∧
    (decodeBytes (Utf8.encode s)).length + 2 * escapeCount (Utf8.encode s) =
      (Utf8.encode s).length := by
  refine ⟨fun _ _ _ _ => IsEscapeAt.apart, fun _ => isReplaced_iff, hasEscapeBytes_iff, fun h => ?_,
    length_decodeBytes _⟩
  exact ⟨decodeBytes_of_hasEscapeBytes h, decode_of_hasEscape h⟩

/-- A text with adjacent, stray and truncated percent signs, and one in which none begins an
escape. -/
theorem decode_replaces_stray :
    let s := "%%41%4%e2%82%AC%7".toList
    let t := "5%4g%é".toList
    (IsEscapeAt (Utf8.encode s) 6 0xE2 ∧ IsEscapeAt (Utf8.encode s) 9 0x82 ∧ 6 + 3 ≤ 9) ∧
      escapeCount (Utf8.encode s) = 4 ∧ (decodeBytes (Utf8.encode s)).length + 8 = 17 ∧
      hasEscape t = false ∧ decode t = t := by
  intro s t
  have hfirst : IsEscapeAt (Utf8.encode s) 6 0xE2 := by decide +kernel
  have hsecond : IsEscapeAt (Utf8.encode s) 9 0x82 := by decide +kernel
  have hcount : escapeCount (Utf8.encode s) = 4 := by decide +kernel
  have hlength : (Utf8.encode s).length = 17 := by decide +kernel
  have hnone : hasEscape t = false := by decide +kernel
  obtain ⟨hapart, -, -, -, hsize⟩ := decode_replaces s
  obtain ⟨-, -, -, hsame, -⟩ := decode_replaces t
  rw [hcount, hlength] at hsize
  exact ⟨⟨hfirst, hsecond, hapart 6 9 _ _ hfirst hsecond (by decide)⟩, hcount, hsize, hnone,
    (hsame hnone).2⟩

example : decode "%%41%4%e2%82%AC%7".toList = "%A%4€%7".toList := by cbv

end Launcher.Text.Percent
