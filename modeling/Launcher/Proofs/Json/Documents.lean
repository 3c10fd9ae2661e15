import Launcher.Json.Fields
import Launcher.Proofs.Json.Scalars

namespace Launcher.Json

/-!
# The document of a value

A value is what the program writes, a document is what it reads: texts in it may turn out to be
none, and its numbers are still made of digits. This file says which document the text of a value
is.

* `ReadsBack` — the text of a double is read as the same double.
* `Value.IsReadable` — the numbers in a value are read back.
* `Value.document` — the document that the text of a value is.
* `Reads` — one step of reading: what it gives, and what it leaves over.
* `readDocument?_chars`, `document?_chars` — the text of a readable value is read as its document.
* `isSound_document`, `nat?_document`, `float?_document` — what the document holds.

The reader is defined by recursion over the length of the rest, which it gives back with a proof
that it has become shorter. `Reads` hides this proof, so that one lemma for each kind of value can
be stated as an equation between texts. The main induction goes over the value. Each case is one
such lemma, for whatever rest follows, as long as no number could go on in it (`EndsNumeral`):
behind an item stands a comma or a bracket, never a digit. Nothing is assumed of doubles but
`ReadsBack`, so that no theorem about shortest decimals is needed to read messages back.
-/

/-! ### Readable values -/

/-- The text of a double is read as a number to its end, and that is the same double. -/
def ReadsBack (x : Float) : Prop :=
  ∃ n, readNumeral? (floatText x) = some (n, []) ∧ (Document.number n).float? = some x

mutual

/-- Whole numbers are not negative and fit sixty-four bits, and doubles are read back. -/
def Value.IsReadable : Value → Prop
  | .int n => 0 ≤ n ∧ n < UInt64.size
  | .float x => ReadsBack x
  | .array items => itemsReadable items
  | .object members => membersReadable members
  | _ => True

/-- Every item is readable. -/
def itemsReadable : List Value → Prop
  | [] => True
  | x :: xs => x.IsReadable ∧ itemsReadable xs

/-- Every member is readable. -/
def membersReadable : List (String × Value) → Prop
  | [] => True
  | (_, x) :: xs => x.IsReadable ∧ membersReadable xs

end

/-- Members are readable if each of them is. -/
theorem membersReadable_iff {members : List (String × Value)} :
    membersReadable members ↔ ∀ m ∈ members, m.2.IsReadable := by
  induction members with
  | nil => exact ⟨nofun, fun _ => trivial⟩
  | cons m ms ih => rw [membersReadable, ih, List.forall_mem_cons]

/-- The parts of the text of a double. -/
def floatNumeral (x : Float) : Numeral :=
  (readNumeral? (floatText x)).elim (wholeNumeral 0) (·.1)

/-- The text of a double that is read back is read to its end. -/
theorem ReadsBack.numeral {x : Float} (h : ReadsBack x) :
    readNumeral? (floatText x) = some (floatNumeral x, []) := by
  obtain ⟨n, hn, -⟩ := h
  rw [floatNumeral, hn]
  rfl

mutual

/-- The document that the text of a value is. -/
def Value.document : Value → Document
  | .null => .null
  | .bool b => .bool b
  | .int n => .number (wholeNumeral n)
  | .float x => .number (floatNumeral x)
  | .string s => .string (some s)
  | .array items => .array (itemDocuments items)
  | .object members => .object (memberDocuments members)

/-- The documents of items. -/
def itemDocuments : List Value → List Document
  | [] => []
  | x :: xs => x.document :: itemDocuments xs

/-- The documents of members, with their keys. -/
def memberDocuments : List (String × Value) → List (Option String × Document)
  | [] => []
  | (k, x) :: xs => (some k, x.document) :: memberDocuments xs

end

/-! ### Single steps of reading -/

/-- Reading a text gives a result and leaves a rest over. -/
def Reads {α : Type} {s : List Char} (r : Read α s) (x : α) (rest : List Char) : Prop :=
  ∃ h, r = some (x, ⟨rest, h⟩)

section Steps

variable {c d : Char} {s rest rest' : List Char} {item : Document} {items : List Document}
  {members : List (Option String × Document)}

/-- There is nothing to skip before a character that is no space. -/
theorem skipSpace_cons (hc : isSpace c = false) (s : List Char) : skipSpace (c :: s) = c :: s :=
  List.dropWhile_cons_of_neg (by simp [hc])

/-- The character that is asked for is skipped. -/
theorem skipChar?_self (hc : isSpace c = false) (s : List Char) :
    skipChar? c (c :: s) = some ⟨s, Nat.lt_succ_self _⟩ := by
  unfold skipChar?
  split
  next heq =>
    obtain ⟨rfl, rfl⟩ := List.cons.inj ((skipSpace_cons hc s).symm.trans heq)
    exact if_pos rfl
  next heq => exact nomatch (skipSpace_cons hc s).symm.trans heq

/-- Another character is not skipped. -/
theorem skipChar?_of_ne (hd : isSpace d = false) (hne : d ≠ c) (s : List Char) :
    skipChar? c (d :: s) = none := by
  unfold skipChar?
  split
  next heq =>
    obtain ⟨rfl, rfl⟩ := List.cons.inj ((skipSpace_cons hd s).symm.trans heq)
    exact if_neg hne
  next heq => exact nomatch (skipSpace_cons hd s).symm.trans heq

/-- A document that holds no other is told by its first character. -/
theorem readDocument?_scalar (hspace : isSpace c = false) (hlist : c ≠ '[') (hobject : c ≠ '{')
    (hscalar : readScalar? c s = some (item, rest)) (hlength : rest.length < s.length + 1) :
    Reads (readDocument? (c :: s)) item rest := by
  refine ⟨hlength, ?_⟩
  rw [readDocument?]
  split
  next heq => cases (skipSpace_cons hspace s).symm.trans heq
  next heq =>
    obtain ⟨rfl, rfl⟩ := List.cons.inj ((skipSpace_cons hspace s).symm.trans heq)
    rw [if_neg hlist, if_neg hobject, hscalar]
    exact dif_pos hlength

/-- An empty list is read. -/
theorem readDocument?_array_nil : Reads (readDocument? ('[' :: ']' :: rest)) (.array []) rest := by
  refine ⟨Nat.lt_succ_of_lt (Nat.lt_succ_self _), ?_⟩
  rw [readDocument?]
  split
  next heq => cases heq
  next heq =>
    obtain ⟨rfl, rfl⟩ := List.cons.inj heq
    rw [if_pos rfl, skipChar?_self (by decide)]

/-- Items between brackets are read as a list, if no bracket closes it before them. -/
theorem readDocument?_array (hskip : skipChar? ']' s = none)
    (hitems : Reads (readItems? s) items rest) :
    Reads (readDocument? ('[' :: s)) (.array items) rest := by
  obtain ⟨hlength, hitems⟩ := hitems
  refine ⟨Nat.lt_succ_of_lt hlength, ?_⟩
  rw [readDocument?]
  split
  -- The text is not empty, so the first equation is impossible.
  next heq => cases heq
  next heq =>
    obtain ⟨rfl, rfl⟩ := List.cons.inj heq
    rw [if_pos rfl, hskip]
    simp only [hitems]
    rfl

/-- An object without members is read. -/
theorem readDocument?_object_nil :
    Reads (readDocument? ('{' :: '}' :: rest)) (.object []) rest := by
  refine ⟨Nat.lt_succ_of_lt (Nat.lt_succ_self _), ?_⟩
  rw [readDocument?]
  split
  next heq => cases heq
  next heq =>
    obtain ⟨rfl, rfl⟩ := List.cons.inj heq
    rw [if_neg (by decide), if_pos rfl, skipChar?_self (by decide)]

/-- Members between braces are read as an object, if no brace closes it before them. -/
theorem readDocument?_object (hskip : skipChar? '}' s = none)
    (hmembers : Reads (readMembers? s) members rest) :
    Reads (readDocument? ('{' :: s)) (.object members) rest := by
  obtain ⟨hlength, hmembers⟩ := hmembers
  refine ⟨Nat.lt_succ_of_lt hlength, ?_⟩
  rw [readDocument?]
  split
  next heq => cases heq
  next heq =>
    obtain ⟨rfl, rfl⟩ := List.cons.inj heq
    rw [if_neg (by decide), if_pos rfl, hskip]
    simp only [hmembers]
    rfl

/-- The item before the bracket is the last one. -/
theorem readItems?_last (hitem : Reads (readDocument? s) item (']' :: rest)) :
    Reads (readItems? s) [item] rest := by
  obtain ⟨hlength, hitem⟩ := hitem
  refine ⟨Nat.lt_of_succ_lt hlength, ?_⟩
  have hcomma : skipChar? ',' (']' :: rest) = none := skipChar?_of_ne (by decide) (by decide) rest
  have hend := skipChar?_self (c := ']') (by decide) rest
  rw [readItems?, hitem]
  simp only [Option.bind_eq_bind, Option.bind_some, hcomma, hend]
  rfl

/-- The items after a comma follow the one before it. -/
theorem readItems?_cons (hitem : Reads (readDocument? s) item (',' :: rest))
    (hitems : Reads (readItems? rest) items rest') :
    Reads (readItems? s) (item :: items) rest' := by
  obtain ⟨hlength, hitem⟩ := hitem
  obtain ⟨hlength', hitems⟩ := hitems
  refine ⟨Nat.lt_trans hlength' (Nat.lt_of_succ_lt hlength), ?_⟩
  have hcomma := skipChar?_self (c := ',') (by decide) rest
  rw [readItems?, hitem]
  simp only [Option.bind_eq_bind, Option.bind_some, hcomma, hitems]
  rfl

/-- The text of a key and the colon after it. -/
def keyText (k : String) (s : List Char) : List Char :=
  quote k.toList ++ ':' :: s

theorem keyText_eq (k : String) (s : List Char) :
    keyText k s = '"' :: (k.toList.flatMap escapeChar ++ '"' :: ':' :: s) := by
  simp [keyText, quote]

/-- A key is read up to its colon. -/
theorem readKey?_keyText (k : String) (s : List Char) :
    Reads (readKey? (keyText k s)) (some k) s := by
  rw [keyText_eq]
  -- The reader asks for a proof that the rest is shorter, whatever the key is.
  have hlength : (':' :: s).length < (k.toList.flatMap escapeChar ++ '"' :: ':' :: s).length := by
    simp only [List.length_cons, List.length_append]
    omega
  refine ⟨Nat.lt_succ_of_lt (Nat.lt_of_succ_lt hlength), ?_⟩
  have hquote := skipChar?_self (c := '"') (by decide)
    (k.toList.flatMap escapeChar ++ '"' :: ':' :: s)
  have hcolon := skipChar?_self (c := ':') (by decide) s
  have hstring : shorter? (k.toList.flatMap escapeChar ++ '"' :: ':' :: s)
      (readString? (k.toList.flatMap escapeChar ++ '"' :: ':' :: s)) =
        some (some k, ⟨':' :: s, hlength⟩) := by
    rw [readString?_escaped]
    exact dif_pos hlength
  unfold readKey?
  simp only [Option.bind_eq_bind, Option.bind_some, hquote, hstring, hcolon]
  rfl

/-- The member before the brace is the last one. -/
theorem readMembers?_last (k : String) (hitem : Reads (readDocument? s) item ('}' :: rest)) :
    Reads (readMembers? (keyText k s)) [(some k, item)] rest := by
  obtain ⟨hlength, hitem⟩ := hitem
  obtain ⟨hkeyLength, hkey⟩ := readKey?_keyText k s
  refine ⟨Nat.lt_trans (Nat.lt_of_succ_lt hlength) hkeyLength, ?_⟩
  have hcomma : skipChar? ',' ('}' :: rest) = none := skipChar?_of_ne (by decide) (by decide) rest
  have hend := skipChar?_self (c := '}') (by decide) rest
  rw [readMembers?, hkey]
  simp only [Option.bind_eq_bind, Option.bind_some, hitem, hcomma, hend]
  rfl

/-- The members after a comma follow the one before it. -/
theorem readMembers?_cons (k : String) (hitem : Reads (readDocument? s) item (',' :: rest))
    (hmembers : Reads (readMembers? rest) members rest') :
    Reads (readMembers? (keyText k s)) ((some k, item) :: members) rest' := by
  obtain ⟨hlength, hitem⟩ := hitem
  obtain ⟨hlength', hmembers⟩ := hmembers
  obtain ⟨hkeyLength, hkey⟩ := readKey?_keyText k s
  refine ⟨Nat.lt_trans (Nat.lt_trans hlength' (Nat.lt_of_succ_lt hlength)) hkeyLength, ?_⟩
  have hcomma := skipChar?_self (c := ',') (by decide) rest
  rw [readMembers?, hkey]
  simp only [Option.bind_eq_bind, Option.bind_some, hitem, hcomma, hmembers]
  rfl

end Steps

/-! ### Reading values -/

/-- The first characters of numbers. -/
def StartsNumber (c : Char) : Prop :=
  c = '-' ∨ Text.isDigit c = true

/-- No number begins with a character that is neither a sign nor a digit. -/
theorem StartsNumber.ne {c d : Char} (h : StartsNumber c) (hsign : d ≠ '-')
    (hdigit : Text.isDigit d = false) : c ≠ d := by
  rintro rfl
  obtain h | h := h
  · exact hsign h
  · rw [h] at hdigit
    exact nomatch hdigit

/-- No number begins with a space. -/
theorem StartsNumber.isSpace {c : Char} (h : StartsNumber c) : isSpace c = false := by
  have hspace := h.ne (d := ' ') (by decide) (by decide)
  have hline := h.ne (d := '\n') (by decide) (by decide)
  have htab := h.ne (d := '\t') (by decide) (by decide)
  have hreturn := h.ne (d := '\r') (by decide) (by decide)
  simp [Json.isSpace, hspace, hline, htab, hreturn]

/-- A text that is read as a number begins like one. -/
theorem exists_of_readNumeral? {s : List Char} {parts : Numeral × List Char}
    (h : readNumeral? s = some parts) : ∃ c tail, s = c :: tail ∧ StartsNumber c := by
  cases s with
  | nil => exact nomatch h
  | cons c tail =>
    refine ⟨c, tail, rfl, ?_⟩
    by_cases hc : c = '-'
    · exact .inl hc
    · right
      rw [readNumeral?_of_ne hc] at h
      by_cases hdigit : Text.isDigit c = true
      · exact hdigit
      · have hspan : Decimal.spanDigits (c :: tail) = ([], c :: tail) := by
          simp [Decimal.spanDigits, hdigit]
        unfold readMagnitude? at h
        rw [hspan] at h
        exact nomatch h

/-- A number, whatever follows it. -/
theorem readDocument?_number {text rest : List Char} {n : Numeral}
    (h : readNumeral? text = some (n, [])) (hrest : EndsNumeral rest) :
    Reads (readDocument? (text ++ rest)) (.number n) rest := by
  have hread := readNumeral?_append hrest h
  obtain ⟨c, tail, rfl, hc⟩ := exists_of_readNumeral? h
  -- The first character is none of those that begin another kind of scalar.
  have hscalar : readScalar? c (tail ++ rest) = some (.number n, rest) := by
    unfold readScalar?
    rw [if_neg (hc.ne (by decide) (by decide)), if_neg (hc.ne (by decide) (by decide)),
      if_neg (hc.ne (by decide) (by decide)), if_neg (hc.ne (by decide) (by decide)),
      ← List.cons_append, hread]
    rfl
  rw [List.cons_append]
  refine readDocument?_scalar hc.isSpace (hc.ne (by decide) (by decide))
    (hc.ne (by decide) (by decide)) hscalar ?_
  rw [List.length_append]
  omega

/-- A text is read, whatever follows it. -/
theorem readDocument?_string (s : String) (rest : List Char) :
    Reads (readDocument? (quote s.toList ++ rest)) (.string (some s)) rest := by
  have hquote : quote s.toList ++ rest = '"' :: (s.toList.flatMap escapeChar ++ '"' :: rest) := by
    simp [quote]
  rw [hquote]
  refine readDocument?_scalar (by decide) (by decide) (by decide) ?_ ?_
  · unfold readScalar?
    rw [if_pos rfl, readString?_escaped]
    rfl
  · simp only [List.length_append, List.length_cons]
    omega

/-- The text of a value begins with no space, and with no mark that ends a list. -/
theorem exists_chars (v : Value) (hv : v.IsReadable) :
    ∃ c tail, v.chars = c :: tail ∧ isSpace c = false ∧ c ≠ ']' := by
  have hnumber {text : List Char} {parts : Numeral × List Char}
      (h : readNumeral? text = some parts) :
      ∃ c tail, text = c :: tail ∧ isSpace c = false ∧ c ≠ ']' := by
    obtain ⟨c, tail, htext, hc⟩ := exists_of_readNumeral? h
    exact ⟨c, tail, htext, hc.isSpace, hc.ne (by decide) (by decide)⟩
  match v, hv with
  | .null, _ | .bool true, _ | .bool false, _ | .string _, _ | .array [], _ | .array (_ :: _), _
  | .object [], _ | .object ((_, _) :: _), _ => exact ⟨_, _, rfl, by decide, by decide⟩
  | .int n, _ => exact hnumber (readNumeral?_intText n)
  | .float x, hx => exact hnumber (ReadsBack.numeral hx)

/-- Behind an item stands a comma or a bracket. -/
theorem endsNumeral_itemsChars (xs : List Value) (rest : List Char) :
    EndsNumeral (itemsChars xs ++ rest) := by
  cases xs <;> rintro c ⟨⟩ <;> decide

/-- Behind a member stands a comma or a brace. -/
theorem endsNumeral_membersChars (xs : List (String × Value)) (rest : List Char) :
    EndsNumeral (membersChars xs ++ rest) := by
  cases xs <;> rintro c ⟨⟩ <;> decide

mutual

/-- The text of a value is read as its document, whatever follows it. -/
theorem readDocument?_chars (v : Value) (hv : v.IsReadable) (rest : List Char)
    (hrest : EndsNumeral rest) : Reads (readDocument? (v.chars ++ rest)) v.document rest := by
  match v, hv with
  | .null, _ => exact readDocument?_scalar (by decide) (by decide) (by decide) rfl (by simp; omega)
  | .bool true, _ =>
    exact readDocument?_scalar (by decide) (by decide) (by decide) rfl (by simp; omega)
  | .bool false, _ =>
    exact readDocument?_scalar (by decide) (by decide) (by decide) rfl (by simp; omega)
  | .int n, _ => exact readDocument?_number (readNumeral?_intText n) hrest
  | .float x, hx => exact readDocument?_number (ReadsBack.numeral hx) hrest
  | .string s, _ => exact readDocument?_string s rest
  | .array [], _ => exact readDocument?_array_nil
  | .array (x :: xs), hv =>
    obtain ⟨hx, hxs⟩ := hv
    -- The first item does not begin with a bracket, so the list is not closed at once.
    have hskip : skipChar? ']' (x.chars ++ (itemsChars xs ++ rest)) = none := by
      obtain ⟨c, tail, hchars, hspace, hne⟩ := exists_chars x hx
      rw [hchars]
      exact skipChar?_of_ne hspace hne _
    rw [Value.chars, List.cons_append, List.cons_append, List.append_assoc]
    exact readDocument?_array hskip (readItems?_chars x hx xs hxs rest)
  | .object [], _ => exact readDocument?_object_nil
  | .object ((k, x) :: xs), hv =>
    obtain ⟨hx, hxs⟩ := hv
    have htext : (Value.object ((k, x) :: xs)).chars ++ rest =
        '{' :: keyText k (x.chars ++ (membersChars xs ++ rest)) := by
      simp [Value.chars, keyText]
    rw [htext]
    refine readDocument?_object ?_ (readMembers?_chars k x hx xs hxs rest)
    rw [keyText_eq]
    exact skipChar?_of_ne (by decide) (by decide) _
termination_by sizeOf v

/-- The texts of items are read as their documents, up to the bracket behind them. -/
theorem readItems?_chars (x : Value) (hx : x.IsReadable) (xs : List Value)
    (hxs : itemsReadable xs) (rest : List Char) :
    Reads (readItems? (x.chars ++ (itemsChars xs ++ rest))) (itemDocuments (x :: xs)) rest := by
  have hitem := readDocument?_chars x hx _ (endsNumeral_itemsChars xs rest)
  match xs, hxs with
  | [], _ => exact readItems?_last hitem
  | y :: ys, hxs =>
    obtain ⟨hy, hys⟩ := hxs
    rw [itemsChars, List.cons_append, List.cons_append, List.append_assoc] at hitem ⊢
    exact readItems?_cons hitem (readItems?_chars y hy ys hys rest)
termination_by sizeOf x + sizeOf xs + 1

/-- The texts of members are read as their documents, up to the brace behind them. -/
theorem readMembers?_chars (k : String) (x : Value) (hx : x.IsReadable)
    (xs : List (String × Value)) (hxs : membersReadable xs) (rest : List Char) :
    Reads (readMembers? (keyText k (x.chars ++ (membersChars xs ++ rest))))
      (memberDocuments ((k, x) :: xs)) rest := by
  have hitem := readDocument?_chars x hx _ (endsNumeral_membersChars xs rest)
  match xs, hxs with
  | [], _ => exact readMembers?_last k hitem
  | (l, y) :: ys, hxs =>
    obtain ⟨hy, hys⟩ := hxs
    have htext : membersChars ((l, y) :: ys) ++ rest =
        ',' :: keyText l (y.chars ++ (membersChars ys ++ rest)) := by
      simp [membersChars, keyText]
    rw [htext] at hitem ⊢
    exact readMembers?_cons k hitem (readMembers?_chars l y hy ys hys rest)
termination_by sizeOf x + sizeOf xs + 1

end

/-- **The text of a readable value** is read as its document. -/
theorem document?_chars {v : Value} (hv : v.IsReadable) : document? v.chars = some v.document := by
  have hread := readDocument?_chars v hv [] nofun
  rw [List.append_nil] at hread
  obtain ⟨hlength, hread⟩ := hread
  unfold document?
  rw [hread]
  rfl

/-! ### What the document holds -/

/-- The digits of a number of sixty-four bits have this number as their value. -/
theorem value?_wholeNumeral {n : Int} (hpos : 0 ≤ n) (h : n < UInt64.size) :
    (wholeNumeral n).value? = some (.int n) := by
  obtain ⟨k, rfl⟩ := Int.eq_ofNat_of_zero_le hpos
  have hk : k < UInt64.size := by omega
  have hsign : decide ((k : Int) < 0) = false := decide_eq_false (by omega)
  unfold wholeNumeral
  rw [hsign, Int.natAbs_natCast]
  simp [Numeral.value?, Decimal.ofDigits_digits, hk]

/-- A whole number is read as itself. -/
theorem nat?_document {n : Nat} (h : n < UInt64.size) : (Value.int n).document.nat? = some n := by
  unfold Value.document Document.nat?
  dsimp only
  rw [value?_wholeNumeral (Int.natCast_nonneg n) (Int.ofNat_lt.mpr h)]
  exact if_pos (Int.natCast_nonneg n)

/-- A double is read as itself. -/
theorem float?_document {x : Float} (h : ReadsBack x) :
    (Value.float x).document.float? = some x := by
  obtain ⟨n, hn, hvalue⟩ := h
  rw [Value.document, floatNumeral, hn]
  exact hvalue

/-- The document of each item is that of its value. -/
theorem itemDocuments_map {α : Type} (toValue : α → Value) (xs : List α) :
    itemDocuments (xs.map toValue) = xs.map fun x => (toValue x).document := by
  induction xs with
  | nil => rfl
  | cons x xs ih => rw [List.map_cons, itemDocuments, ih, List.map_cons]

/-- A list is read back if its items are. -/
theorem list?_document {α : Type} {toValue : α → Value} {read? : Document → Option α} {xs : List α}
    (h : ∀ x ∈ xs, read? (toValue x).document = some x) :
    Document.list? read? (Value.array (xs.map toValue)).document = some xs := by
  rw [Value.document, itemDocuments_map]
  show (xs.map fun x => (toValue x).document).mapM read? = some xs
  induction xs with
  | nil => rfl
  | cons x xs ih =>
    rw [List.map_cons, List.mapM_cons, h x List.mem_cons_self,
      ih fun y hy => h y (List.mem_cons_of_mem x hy)]
    rfl

/-- Items are readable if the value of each is. -/
theorem itemsReadable_map {α : Type} {toValue : α → Value} {xs : List α}
    (h : ∀ x ∈ xs, (toValue x).IsReadable) : itemsReadable (xs.map toValue) := by
  induction xs with
  | nil => trivial
  | cons x xs ih =>
    exact ⟨h x List.mem_cons_self, ih fun y hy => h y (List.mem_cons_of_mem x hy)⟩

/-- No item holds others more deeply than is allowed for each. -/
theorem itemsDepth_map_le {α : Type} {toValue : α → Value} {xs : List α} {k : Nat}
    (h : ∀ x ∈ xs, (toValue x).document.depth ≤ k) :
    itemsDepth (itemDocuments (xs.map toValue)) ≤ k := by
  induction xs with
  | nil => exact Nat.zero_le k
  | cons x xs ih =>
    exact Nat.max_le.mpr
      ⟨h x List.mem_cons_self, ih fun y hy => h y (List.mem_cons_of_mem x hy)⟩

mutual

/-- Every text in the document is one, and every number has a value. -/
theorem isSound_document (v : Value) (hv : v.IsReadable) : v.document.isSound = true := by
  match v, hv with
  | .null, _ | .bool _, _ | .string _, _ => rfl
  | .int n, hn =>
    show (wholeNumeral n).value?.isSome = true
    rw [value?_wholeNumeral hn.1 hn.2]
    rfl
  | .float x, hx =>
    -- A double that is read back has a value, and a sound number is just one that has.
    have hvalue := float?_document hx
    show (floatNumeral x).value?.isSome = true
    cases hsome : (floatNumeral x).value? with
    | some _ => rfl
    | none => simp [Value.document, Document.float?, hsome] at hvalue
  | .array items, hv => exact itemsSound_documents items hv
  | .object members, hv => exact membersSound_documents members hv

/-- So it is in all items. -/
theorem itemsSound_documents (xs : List Value) (hxs : itemsReadable xs) :
    itemsSound (itemDocuments xs) = true := by
  match xs, hxs with
  | [], _ => rfl
  | x :: xs, hxs =>
    rw [itemDocuments, itemsSound, isSound_document x hxs.1, itemsSound_documents xs hxs.2]
    rfl

/-- So it is in all members, whose keys are texts. -/
theorem membersSound_documents (xs : List (String × Value)) (hxs : membersReadable xs) :
    membersSound (memberDocuments xs) = true := by
  match xs, hxs with
  | [], _ => rfl
  | (k, x) :: xs, hxs =>
    rw [memberDocuments, membersSound, isSound_document x hxs.1, membersSound_documents xs hxs.2]
    rfl

end

end Launcher.Json
