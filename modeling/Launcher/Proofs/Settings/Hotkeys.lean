import Launcher.Proofs.Decimal.Digits
import Launcher.Proofs.Text.Pieces
import Launcher.Settings.Hotkey

namespace Launcher

/-!
# Hotkeys have one spelling

A hotkey can be entered in many ways: modifiers have several names, their order and number do not
matter, nor do the case of letters and the blanks around the parts. One of these texts is the one by
which the hotkey is written, and it can serve as its name.

* `IsSpelled` — the parts of a text name some modifiers and end in the text of a key.
* `parse_of_isSpelled`, `exists_isSpelled` — what reading makes of such a text, and that all texts
  that can be read are such texts.
* `IsKey` — the keys that can be read, in the form that they have then.
* `parseKey_keyText`, `isSpelled_text` — what a hotkey is written by spells it.
* `canonical`, `canonical_unique` — the spelling that a text is given is its own, and the same for
  all texts that spell a hotkey with the same modifiers and the same key.

The spelling says nothing about the separators, the blanks or the words that were used; it is a fact
about the parts of the text. So there are two steps. One goes from a text to its parts and to the
words that they are, and the other from these to the hotkey, which keeps of the modifiers only which
ones there are (`ofParts_congr`). To write a hotkey and read it again, the parts of the written text
have to be found again, which they are as no word and no key has a plus sign or a blank in it.
-/

namespace Modifier

theorem mem_all (m : Modifier) : m ∈ all := by
  cases m <;> decide

/-- A modifier is named by what it is written by, which is letters only. -/
theorem ofWord?_name (m : Modifier) : ofWord? m.name.toList = some m := by
  cases m <;> decide

/-- It is made of letters only, and of one at least. -/
theorem isAlphanumeric_name (m : Modifier) :
    m.name.toList ≠ [] ∧ ∀ c ∈ m.name.toList, Text.isAlphanumeric c = true := by
  rw [← List.all_eq_true]
  cases m <;> decide

end Modifier

namespace Hotkey

/-- The parts of a text name some modifiers and end in the text of a key. -/
def IsSpelled (s : List Char) (named : List Modifier) (key : List Char) : Prop :=
  ∃ words, parts s = words ++ [key] ∧ words.map Modifier.ofWord? = named.map some

variable {s t key : List Char} {named : List Modifier} {h : Hotkey} {k : Key}

/-! ### Reading -/

/-- Words are read as modifiers if each of them names one. -/
theorem parseModifiers_eq_ok_iff {words : List (List Char)} :
    parseModifiers words = .ok named ↔ words.map Modifier.ofWord? = named.map some := by
  induction words generalizing named with
  | nil => cases named <;> simp [parseModifiers]
  | cons word words ih =>
    rw [parseModifiers, List.map_cons]
    cases Modifier.ofWord? word with
    | none => cases named <;> simp
    | some m =>
      cases named with
      | nil => cases hrest : parseModifiers words <;> simp [Except.map]
      | cons n named =>
        cases hrest : parseModifiers words <;> simp [Except.map, ← ih, hrest]

/-- **Reading a text** whose parts name modifiers and end in a key. -/
theorem parse_of_isSpelled (hs : IsSpelled s named key) (hnamed : named ≠ []) :
    parse s = (parseKey key).bind fun k => unlessReserved (ofParts named k) := by
  obtain ⟨words, hparts, hwords⟩ := hs
  have hne : words ≠ [] := by
    rintro rfl
    exact hnamed (List.map_eq_nil_iff.mp hwords.symm)
  -- A modifier is named, so there are two parts at least.
  have hlength : ¬(words ++ [key]).length < 2 := by
    have hpos := List.length_pos_of_ne_nil hne
    rw [List.length_append, List.length_singleton]
    omega
  unfold parse
  rw [hparts]
  dsimp only
  rw [List.getLast?_concat]
  dsimp only
  rw [if_neg hlength, List.dropLast_concat, parseModifiers_eq_ok_iff.mpr hwords]
  rfl

/-- A hotkey is let through as it is, if it is not reserved. -/
theorem unlessReserved_eq_ok_iff {h h' : Hotkey} :
    unlessReserved h = .ok h' ↔ h = h' ∧ h.isReserved = false := by
  unfold unlessReserved
  cases hreserved : h.isReserved <;> simp

/-- A hotkey that was read is the one that the parts of the text spell. -/
theorem exists_isSpelled (hs : parse s = .ok h) : ∃ named key k, IsSpelled s named key ∧
    named ≠ [] ∧ parseKey key = .ok k ∧ h = ofParts named k ∧ h.isReserved = false := by
  unfold parse at hs
  dsimp only at hs
  split at hs
  next => exact nomatch hs
  next key hlast =>
    obtain ⟨words, hparts⟩ := List.getLast?_eq_some_iff.mp hlast
    split at hs
    next => exact nomatch hs
    next hlength =>
      rw [hparts, List.dropLast_concat] at hs
      -- There is a part before the key, so some modifier is named.
      have hne : words ≠ [] := by
        rintro rfl
        simp [hparts] at hlength
      cases hkey : parseKey key with
      | error fault =>
        rw [hkey] at hs
        exact nomatch hs
      | ok k =>
        cases hnamed : parseModifiers words with
        | error fault =>
          rw [hkey, hnamed] at hs
          exact nomatch hs
        | ok named =>
          rw [hkey, hnamed] at hs
          obtain ⟨rfl, hreserved⟩ := unlessReserved_eq_ok_iff.mp hs
          have hwords := parseModifiers_eq_ok_iff.mp hnamed
          refine ⟨named, key, k, ⟨words, hparts, hwords⟩, ?_, hkey, rfl, hreserved⟩
          rintro rfl
          exact hne (List.map_eq_nil_iff.mp hwords)

/-! ### Modifiers -/

theorem mem_ofParts {m : Modifier} : m ∈ (ofParts named k).modifiers ↔ m ∈ named := by
  simp [ofParts, Modifier.mem_all]

/-- The order of modifiers and their repetitions do not matter. -/
theorem ofParts_congr {named' : List Modifier} (hsame : ∀ m, m ∈ named ↔ m ∈ named') (k : Key) :
    ofParts named k = ofParts named' k := by
  have hfilter : Modifier.all.filter (named.contains ·) = Modifier.all.filter (named'.contains ·) :=
    List.filter_congr fun m _ => by
      rw [Bool.eq_iff_iff, List.contains_iff_mem, List.contains_iff_mem, hsame]
  rw [ofParts, hfilter, ofParts]

/-- Modifiers in their order stay in it. -/
theorem ofParts_modifiers (named : List Modifier) (k k' : Key) :
    ofParts (ofParts named k).modifiers k' = ofParts named k' :=
  ofParts_congr (fun _ => mem_ofParts) k'

/-! ### Keys -/

/-- The case of letters does not matter for a key. -/
theorem parseKey_congr {key' : List Char} (hsame : Text.lower key = Text.lower key') :
    parseKey key = parseKey key' := by
  unfold parseKey
  rw [Text.map_upperChar_of_lower_eq hsame]

/-- A symbol is one letter or digit. -/
theorem exists_of_symbolKey (hk : symbolKey s = .ok k) :
    ∃ c, s = [c] ∧ Text.isAlphanumeric c = true ∧ k = .symbol c := by
  unfold symbolKey at hk
  split at hk
  next c =>
    split at hk
    next hc => exact ⟨c, rfl, hc, (Except.ok.inj hk).symm⟩
    next => exact nomatch hk
  next => exact nomatch hk

/-- The keys that can be read. -/
inductive IsKey : Key → Prop
  | space : IsKey .space
  | function {n : Nat} (hn : 1 ≤ n ∧ n ≤ 24) : IsKey (.function n)
  | symbol {c : Char} (hc : Text.isAlphanumeric c = true) (hupper : Text.upperChar c = c) :
      IsKey (.symbol c)

/-- A symbol that was read in upper case is a key in upper case. -/
theorem isKey_of_symbolKey {upper : List Char} (hupper : upper.map Text.upperChar = upper)
    (hk : symbolKey upper = .ok k) : IsKey k := by
  obtain ⟨c, rfl, hc, rfl⟩ := exists_of_symbolKey hk
  exact .symbol hc (List.cons.inj hupper).1

/-- What was read as a key is one that can be read. -/
theorem isKey_of_parseKey (hk : parseKey key = .ok k) : IsKey k := by
  have hupper : (key.map Text.upperChar).map Text.upperChar = key.map Text.upperChar := by
    rw [List.map_map]
    exact List.map_congr_left fun c _ => Text.upperChar_upperChar c
  unfold parseKey at hk
  dsimp only at hk
  split at hk
  next =>
    obtain rfl := Except.ok.inj hk
    exact .space
  next =>
    split at hk
    next rest hrest =>
      split at hk
      next n hn =>
        split at hk
        next hrange =>
          obtain rfl := Except.ok.inj hk
          exact .function hrange
        next => exact nomatch hk
      next => exact isKey_of_symbolKey hupper hk
    next => exact isKey_of_symbolKey hupper hk

/-- A key is read off what it is written by. -/
theorem parseKey_keyText (hk : IsKey k) : parseKey (keyText k) = .ok k := by
  cases hk with
  | space => decide
  | @function n hn =>
    -- The letter and the digits are their own upper case.
    have hupper : (keyText (.function n)).map Text.upperChar = 'F' :: Decimal.digits n := by
      rw [keyText, List.map_cons, List.map_congr_left (g := id), List.map_id]
      · rfl
      · intro c hc
        have hdigit := Text.isDigit_iff.mp (Decimal.isDigit_of_mem_digits n c hc)
        exact Text.upperChar_of_lt (by omega)
    have hword : Decimal.readWord? 8 (Decimal.digits n) = some n :=
      Decimal.readWord?_digits (hn.2.trans_lt (by decide))
    have hspace : 'F' :: Decimal.digits n ≠ "SPACE".toList := by simp
    unfold parseKey
    dsimp only
    rw [hupper, if_neg hspace]
    split
    next rest heq =>
      obtain ⟨-, rfl⟩ := List.cons.inj heq
      rw [hword]
      exact if_pos hn
    next hne => exact absurd rfl (hne _)
  | @symbol c hc hupper =>
    have hspace : [c] ≠ "SPACE".toList := by simp
    unfold parseKey
    dsimp only
    rw [keyText, List.map_singleton, hupper, if_neg hspace]
    -- A letter `F` with no number after it is a key like any other.
    split
    next rest heq =>
      obtain ⟨-, rfl⟩ := List.cons.inj heq
      exact if_pos hc
    next => exact if_pos hc

/-- A key is written by letters and digits only. -/
theorem isAlphanumeric_keyText (hk : IsKey k) :
    keyText k ≠ [] ∧ ∀ c ∈ keyText k, Text.isAlphanumeric c = true := by
  cases hk with
  | space =>
    rw [← List.all_eq_true]
    decide
  | @function n hn =>
    refine ⟨List.cons_ne_nil _ _, List.forall_mem_cons.mpr ⟨rfl, fun c hc => ?_⟩⟩
    rw [Text.isAlphanumeric, Decimal.isDigit_of_mem_digits n c hc, Bool.or_true]
  | @symbol c hc hupper => exact ⟨List.cons_ne_nil _ _, by simpa [keyText] using hc⟩

/-! ### Writing -/

/-- Pieces of letters and digits are the parts of the text that has plus signs between them. -/
theorem parts_joinWith {pieces : List (List Char)} (hne : pieces ≠ [])
    (hpieces : ∀ piece ∈ pieces, piece ≠ [] ∧ ∀ c ∈ piece, Text.isAlphanumeric c = true) :
    parts (Text.joinWith ['+'] pieces) = pieces := by
  have hplus : ∀ piece ∈ pieces, '+' ∉ piece := by
    intro piece hpiece hmem
    exact absurd ((hpieces piece hpiece).2 '+' hmem) (by decide)
  -- No piece has a blank, so trimming leaves all of them as they are.
  have htrim : ∀ piece ∈ pieces, Text.trim piece = piece := by
    intro piece hpiece
    have hblank : ∀ c ∈ piece, Text.isBlank c = false := fun c hc =>
      Text.isBlank_of_isAlphanumeric ((hpieces piece hpiece).2 c hc)
    have hstart : Text.trimStart piece = piece :=
      Text.trimStart_eq_self_iff.mpr fun c hc => hblank c (List.mem_of_mem_head? hc)
    exact Text.trim_eq_self_iff.mpr ⟨hstart, Text.trimEnd_of_not_blank hblank⟩
  unfold parts
  rw [Text.splitOn_joinWith hne hplus, List.map_congr_left (g := id) htrim, List.map_id,
    List.filter_eq_self]
  intro piece hpiece
  simpa using (hpieces piece hpiece).1

/-- What a hotkey is written by spells it. -/
theorem isSpelled_text (hk : IsKey h.key) : IsSpelled h.text h.modifiers (keyText h.key) := by
  refine ⟨h.modifiers.map (·.name.toList), ?_, ?_⟩
  · refine parts_joinWith (List.append_ne_nil_of_right_ne_nil _ (List.cons_ne_nil _ _)) ?_
    intro piece hpiece
    obtain hname | hkey := List.mem_append.mp hpiece
    · obtain ⟨m, -, rfl⟩ := List.mem_map.mp hname
      exact m.isAlphanumeric_name
    · rw [List.mem_singleton.mp hkey]
      exact isAlphanumeric_keyText hk
  · rw [List.map_map]
    exact List.map_congr_left fun m _ => m.ofWord?_name

/-- **What a hotkey is written by** is read as the hotkey. -/
theorem parse_text (hs : parse s = .ok h) : parse h.text = .ok h := by
  obtain ⟨named, key, k, -, hnamed, hkey, rfl, hreserved⟩ := exists_isSpelled hs
  have hk := isKey_of_parseKey hkey
  have hne : (ofParts named k).modifiers ≠ [] := by
    obtain ⟨m, hm⟩ := List.exists_mem_of_ne_nil named hnamed
    exact List.ne_nil_of_mem (mem_ofParts.mpr hm)
  have hspelled : IsSpelled (ofParts named k).text (ofParts named k).modifiers (keyText k) :=
    isSpelled_text hk
  rw [parse_of_isSpelled hspelled hne, parseKey_keyText hk]
  -- The modifiers are in their order already.
  show unlessReserved (ofParts (ofParts named k).modifiers k) = _
  rw [ofParts_modifiers]
  exact unlessReserved_eq_ok_iff.mpr ⟨rfl, hreserved⟩

/-! ### Main theorem -/

/-- The one spelling of the hotkey that a text stands for. -/
def canonical (s : List Char) : Except Fault (List Char) :=
  (parse s).map text

/-- The spelling of a text is that of the hotkey which was read from it. -/
theorem canonical_eq_ok_iff {c : List Char} :
    canonical s = .ok c ↔ ∃ h, parse s = .ok h ∧ h.text = c := by
  unfold canonical
  cases parse s <;> simp [Except.map]

/-- **Hotkeys have one canonical spelling.** It is its own canonical spelling and not reserved; and
texts that spell a key, whatever the case of its letters, with the same modifiers, in whatever words,
order and number, all have it or have none. -/
theorem canonical_unique :
    (∀ s c, canonical s = .ok c →
      canonical c = .ok c ∧ c ∉ reservedTexts.map (·.toList)) ∧
    ∀ s t named named' key key', IsSpelled s named key → IsSpelled t named' key' →
      named ≠ [] → (∀ m, m ∈ named ↔ m ∈ named') → Text.lower key = Text.lower key' →
        canonical s = canonical t := by
  constructor
  · intro s c hc
    obtain ⟨h, hs, rfl⟩ := canonical_eq_ok_iff.mp hc
    refine ⟨canonical_eq_ok_iff.mpr ⟨h, parse_text hs, rfl⟩, fun hmem => ?_⟩
    obtain ⟨-, -, -, -, -, -, -, hreserved⟩ := exists_isSpelled hs
    obtain ⟨reserved, hreservedText, heq⟩ := List.mem_map.mp hmem
    have hany : h.isReserved = true :=
      List.any_eq_true.mpr ⟨reserved, hreservedText, beq_iff_eq.mpr heq⟩
    rw [hany] at hreserved
    exact nomatch hreserved
  · intro s t named named' key key' hs ht hnamed hsame hkey
    have hnamed' : named' ≠ [] := by
      obtain ⟨m, hm⟩ := List.exists_mem_of_ne_nil named hnamed
      exact List.ne_nil_of_mem ((hsame m).mp hm)
    -- Both are read as the hotkey of the same modifiers and the same key.
    rw [canonical, parse_of_isSpelled hs hnamed, parseKey_congr hkey,
      funext (ofParts_congr hsame), canonical, parse_of_isSpelled ht hnamed']

/-- Two texts for one hotkey, with other words for its modifiers and with another case. -/
theorem canonical_unique_function_key :
    let s := " SHIFT+ control++Shift + f05".toList
    let t := "Ctrl+shift+F05".toList
    let c := "Ctrl+Shift+F5".toList
    canonical s = .ok c ∧ canonical c = .ok c ∧ c ∉ reservedTexts.map (·.toList) ∧
      IsSpelled s [.shift, .ctrl, .shift] "f05".toList ∧ IsSpelled t [.ctrl, .shift] "F05".toList ∧
      canonical s = canonical t := by
  intro s t c
  have hcanonical : canonical s = .ok c := by decide +kernel
  have hs : IsSpelled s [.shift, .ctrl, .shift] "f05".toList :=
    ⟨["SHIFT".toList, "control".toList, "Shift".toList], by decide +kernel, by decide +kernel⟩
  have ht : IsSpelled t [.ctrl, .shift] "F05".toList :=
    ⟨["Ctrl".toList, "shift".toList], by decide +kernel, by decide +kernel⟩
  obtain ⟨hc, hfree⟩ := canonical_unique.1 s c hcanonical
  exact ⟨hcanonical, hc, hfree, hs, ht, canonical_unique.2 s t _ _ _ _ hs ht
    (List.cons_ne_nil _ _) (by intro m; cases m <;> decide) (by decide)⟩

end Hotkey

end Launcher
