import Launcher.Proofs.Settings.Scalars

namespace Launcher.Settings.Json5

/-!
# The tokens of a JSON text

* `tokens` — the tokens of a value, and `isPlain`, whether JSON5 can read its texts.
* `gate` — tokens that come before others, if they can be read.
* `Cuts` — what a text is cut into, whatever fuel there is.
* `cuts_text`, `cuts_number`, `cuts_word`, `cuts_mark` — one token after the other.
* `cuts_lines` — the text of a value, whatever follows it.
* `tokenize?_lines` — the text of a value without doubles is cut into the tokens of the value,
  provided that its texts can be read.

The text is written over several lines, with an indentation that depends on the depth. Blanks vanish
when the text is cut, so the depth plays no part in the tokens, and it is a variable in the
induction. A single text that cannot be read refuses the whole; `gate` carries this along, so that
the condition of the theorem is put together of the conditions of the parts, in the order of the
text, by `gate_gate`. The induction goes over the value; lists and objects have companions for what
comes after their first entry, since commas stand before the others only.

Cutting is defined with fuel, one unit for each token or blank. `Cuts` asks for the same result with
any fuel that is enough for the characters, so the fuel is mentioned in the lemmas for single tokens
and nowhere else.
-/

open Json (Value)

/-! ### Tokens of a value -/

/-- A word as a token. -/
def wordToken (word : List Char) : Token :=
  .name (word.map .char)

/-- A whole number as a token. -/
def numberToken (n : Nat) : Token :=
  .number (decimalNode [] (Decimal.digits n))

/-- No character of a text is a separator of lines or paragraphs. -/
def isPlainText (s : String) : Bool :=
  !s.toList.any isSeparator

mutual

/-- All numbers in a value are natural ones. -/
def isCounting : Value → Bool
  | .int n => 0 ≤ n
  | .float _ => false
  | .array items => itemsCounting items
  | .object members => membersCounting members
  | _ => true

/-- All numbers in the items are natural ones. -/
def itemsCounting : List Value → Bool
  | [] => true
  | x :: xs => isCounting x && itemsCounting xs

/-- All numbers in the members are natural ones. -/
def membersCounting : List (String × Value) → Bool
  | [] => true
  | (_, x) :: xs => isCounting x && membersCounting xs

end

mutual

/-- All texts in a value are plain. -/
def isPlain : Value → Bool
  | .string s => isPlainText s
  | .array items => itemsPlain items
  | .object members => membersPlain members
  | _ => true

/-- All texts in the items are plain. -/
def itemsPlain : List Value → Bool
  | [] => true
  | x :: xs => isPlain x && itemsPlain xs

/-- All texts in the members are plain, their names included. -/
def membersPlain : List (String × Value) → Bool
  | [] => true
  | (k, x) :: xs => isPlainText k && isPlain x && membersPlain xs

end

mutual

/-- The tokens of a value without doubles. -/
def tokens : Value → List Token
  | .null => [wordToken "null".toList]
  | .bool true => [wordToken "true".toList]
  | .bool false => [wordToken "false".toList]
  | .int n => [numberToken n.natAbs]
  | .float _ => []
  | .string s => [.text (some s)]
  | .array [] => [.mark '[', .mark ']']
  | .array (x :: xs) => .mark '[' :: (tokens x ++ itemsTokens xs)
  | .object [] => [.mark '{', .mark '}']
  | .object ((k, x) :: xs) =>
    .mark '{' :: .text (some k) :: .mark ':' :: (tokens x ++ membersTokens xs)

/-- The tokens of the further items of an array, and its end. -/
def itemsTokens : List Value → List Token
  | [] => [.mark ']']
  | x :: xs => .mark ',' :: (tokens x ++ itemsTokens xs)

/-- The tokens of the further members of an object, and its end. -/
def membersTokens : List (String × Value) → List Token
  | [] => [.mark '}']
  | (k, x) :: xs => .mark ',' :: .text (some k) :: .mark ':' :: (tokens x ++ membersTokens xs)

end

/-- Items without doubles are made of values without doubles. -/
theorem itemsCounting_map {α : Type} {f : α → Value} (h : ∀ x, isCounting (f x) = true)
    (xs : List α) : itemsCounting (xs.map f) = true := by
  induction xs with
  | nil => rfl
  | cons x xs ih => exact Bool.and_eq_true_iff.mpr ⟨h x, ih⟩

/-- Items are plain if the value of each is. -/
theorem itemsPlain_map {α : Type} (f : α → Value) (xs : List α) :
    itemsPlain (xs.map f) = xs.all fun x => isPlain (f x) := by
  induction xs with
  | nil => rfl
  | cons x xs ih => rw [List.map_cons, itemsPlain, ih, List.all_cons]

/-- The names of members do not matter if they are plain. -/
theorem membersPlain_eq {members : List (String × Value)} {names : List String}
    (hnames : members.map (·.1) = names) (h : ∀ name ∈ names, isPlainText name = true) :
    membersPlain members = members.all fun m => isPlain m.2 := by
  subst hnames
  induction members with
  | nil => rfl
  | cons member members ih =>
    obtain ⟨name, value⟩ := member
    rw [membersPlain, h name List.mem_cons_self,
      ih fun n hn => h n (List.mem_cons_of_mem name hn), List.all_cons, Bool.true_and]

/-! ### Cutting -/

/-- The tokens that come before others, if they can be read. -/
def gate (isRead : Bool) (ts : List Token) (r : Option (List Token)) : Option (List Token) :=
  if isRead then r.map (ts ++ ·) else none

/-- Two parts in a row are one part, which can be read if both can. -/
theorem gate_gate (a b : Bool) (ts us : List Token) (r : Option (List Token)) :
    gate a ts (gate b us r) = gate (a && b) (ts ++ us) r := by
  cases a
  · rfl
  · cases b
    · rfl
    · cases r <;> simp [gate]

/-- What a text is cut into, with any fuel that is enough for its characters. -/
def Cuts (s : List Char) (r : Option (List Token)) : Prop :=
  ∀ fuel, s.length ≤ fuel → tokenizeWith? fuel s = r

/-- An empty text has no tokens. -/
theorem cuts_nil : Cuts [] (some []) := by
  intro fuel _
  rw [tokenizeWith?]

section Cuts

variable {c : Char} {rest tail : List Char} {r : Option (List Token)}

/-- A blank is skipped. -/
theorem cuts_space (hc : isSpace c = true) (h : Cuts rest r) : Cuts (c :: rest) r := by
  intro fuel hfuel
  cases fuel with
  | zero => cases hfuel
  | succ fuel =>
    have hslash : c ≠ '/' := by
      rintro rfl
      exact absurd hc (by decide)
    rw [tokenizeWith?, if_pos hc]
    · exact h fuel (Nat.le_of_succ_le_succ hfuel)
    all_goals simp [hslash]

/-- A text that begins with neither a blank nor a comment begins with a token. -/
theorem tokenizeWith?_token (hspace : isSpace c = false) (hslash : c ≠ '/') (fuel : Nat) :
    tokenizeWith? (fuel + 1) (c :: tail) =
      (readToken? (c :: tail)).bind fun (token, rest) =>
        (tokenizeWith? fuel rest).bind fun ts => some (token :: ts) := by
  rw [tokenizeWith?, hspace, if_neg (by decide)]
  · rfl
  all_goals simp [hslash]

/-- A token that can be read is the first one, and what follows it is cut in turn. -/
theorem cuts_token {token : Token} (hspace : isSpace c = false) (hslash : c ≠ '/')
    (hread : readToken? (c :: tail) = some (token, rest)) (hlength : rest.length ≤ tail.length)
    (h : Cuts rest r) : Cuts (c :: tail) (gate true [token] r) := by
  intro fuel hfuel
  cases fuel with
  | zero => cases hfuel
  | succ fuel =>
    have hrest := h fuel (Nat.le_trans hlength (Nat.le_of_succ_le_succ hfuel))
    rw [tokenizeWith?_token hspace hslash, hread]
    simp only [Option.bind_some, hrest]
    cases r <;> rfl

/-- A token that cannot be read refuses the whole text. -/
theorem cuts_refused (hspace : isSpace c = false) (hslash : c ≠ '/')
    (hread : readToken? (c :: tail) = none) : Cuts (c :: tail) none := by
  intro fuel hfuel
  cases fuel with
  | zero => cases hfuel
  | succ fuel =>
    rw [tokenizeWith?_token hspace hslash, hread]
    rfl

/-- A mark is a token by itself. -/
theorem cuts_mark (hc : c ∈ ['[', ']', '{', '}', ':', ',']) (h : Cuts rest r) :
    Cuts (c :: rest) (gate true [.mark c] r) := by
  have hread : readToken? (c :: rest) = some (.mark c, rest) := by
    rw [readToken?, if_pos hc]
  have hplain : isSpace c = false ∧ c ≠ '/' := by
    simp only [List.mem_cons, List.not_mem_nil, or_false] at hc
    obtain rfl | rfl | rfl | rfl | rfl | rfl := hc <;> decide
  exact cuts_token hplain.1 hplain.2 hread (Nat.le_refl _) h

/-- A new line and its indentation are skipped. -/
theorem cuts_newLine (depth : Nat) (h : Cuts rest r) : Cuts (Json.newLine depth ++ rest) r := by
  have hblanks (n : Nat) : Cuts (List.replicate n ' ' ++ rest) r := by
    induction n with
    | zero => exact h
    | succ n ih => exact cuts_space (by decide) ih
  exact cuts_space (by decide) (hblanks (2 * depth))

/-- A text between quotes is one token, if it can be read. -/
theorem cuts_text (s : String) (h : Cuts rest r) :
    Cuts (Json.quote s.toList ++ rest) (gate (isPlainText s) [.text (some s)] r) := by
  have hquote : Json.quote s.toList ++ rest =
      '"' :: (s.toList.flatMap Json.escapeChar ++ '"' :: rest) := by
    simp [Json.quote]
  -- Only a separator keeps a text from being read.
  have hread : readToken? ('"' :: (s.toList.flatMap Json.escapeChar ++ '"' :: rest)) =
      if s.toList.any isSeparator then none else some (.text (some s), rest) := by
    rw [readToken?, if_neg (by decide), if_pos (by decide), readPieces?_escaped]
    split
    · rfl
    · simp [piecesText?, piecesText?_pieces, String.ofList_toList]
  have hlength : rest.length ≤ (s.toList.flatMap Json.escapeChar ++ '"' :: rest).length := by
    simp only [List.length_append, List.length_cons]
    omega
  rw [hquote]
  unfold isPlainText
  cases hplain : s.toList.any isSeparator
  · exact cuts_token (by decide) (by decide) (by rw [hread, hplain]; rfl) hlength h
  · exact cuts_refused (by decide) (by decide) (by rw [hread, hplain]; rfl)

/-- A digit begins no token but a number. -/
theorem of_isDigit (hc : Text.isDigit c = true) :
    isSpace c = false ∧ c ≠ '/' ∧ c ∉ ['[', ']', '{', '}', ':', ','] ∧
      (c == '"' || c == '\x27') = false := by
  obtain ⟨n, hn, rfl⟩ := Decimal.eq_digitChar hc
  clear hc
  revert n
  decide

/-- The digits of a number are one token. -/
theorem cuts_number (n : Nat) (hrest : EndsScalar rest) (h : Cuts rest r) :
    Cuts (Decimal.digits n ++ rest) (gate true [numberToken n] r) := by
  have hnumber := readNumber?_digits hrest n
  have hdigits := Decimal.isDigit_of_mem_digits n
  have hne := Decimal.digits_ne_nil n
  unfold numberToken
  -- Of the digits only the first one matters from here on.
  generalize decimalNode [] (Decimal.digits n) = node at *
  generalize Decimal.digits n = ds at *
  cases ds with
  | nil => exact absurd rfl hne
  | cons d ds =>
    have hd : Text.isDigit d = true := hdigits d List.mem_cons_self
    obtain ⟨hspace, hslash, hmark, hquote⟩ := of_isDigit hd
    have hread : readToken? (d :: (ds ++ rest)) = some (.number node, rest) := by
      rw [readToken?, if_neg hmark, hquote, if_neg (by decide), hd, ← List.cons_append, hnumber]
      rfl
    refine cuts_token hspace hslash hread ?_ h
    simp

/-- A word is one token. -/
theorem cuts_word {word : List Char}
    (hword : word ∈ ["null".toList, "true".toList, "false".toList])
    (hrest : EndsScalar rest) (h : Cuts rest r) :
    Cuts (word ++ rest) (gate true [wordToken word] r) := by
  have hname : ∀ c ∈ word, Text.isNameStart c = true ∧ Text.isNamePart c = true := by
    have hletters : word.all (fun c => Text.isNameStart c && Text.isNamePart c) = true := by
      simp only [List.mem_cons, List.not_mem_nil, or_false] at hword
      obtain rfl | rfl | rfl := hword <;> decide +kernel
    simpa only [List.all_eq_true, Bool.and_eq_true] using hletters
  have hread := readName_word hrest hname true
  unfold wordToken
  cases word with
  | nil => exact absurd hword (by decide)
  | cons c word =>
    -- The first letter of each of the three words begins no other token.
    have hplain : isSpace c = false ∧ c ≠ '/' ∧ c ∉ ['[', ']', '{', '}', ':', ','] ∧
        (c == '"' || c == '\x27') = false ∧ (Text.isDigit c || c ∈ ['+', '-', '.']) = false := by
      simp only [List.mem_cons, List.not_mem_nil, or_false] at hword
      obtain heq | heq | heq := hword
      all_goals
        cases heq
        decide
    obtain ⟨hspace, hslash, hmark, hquote, hsign⟩ := hplain
    have htoken : readToken? (c :: (word ++ rest)) =
        some (.name ((c :: word).map .char), rest) := by
      rw [readToken?, if_neg hmark, hquote, if_neg (by decide), hsign, if_neg (by decide),
        ← List.cons_append, hread]
      rfl
    refine cuts_token hspace hslash htoken ?_ h
    simp

end Cuts

/-! ### The text of a value -/

/-- A scalar ends before a new line. -/
theorem endsScalar_newLine (depth : Nat) (rest : List Char) :
    EndsScalar (Json.newLine depth ++ rest) :=
  endsScalar_newline _

/-- A scalar ends before the next item, and before the end of the list. -/
theorem endsScalar_itemsLines (depth : Nat) (xs : List Value) (rest : List Char) :
    EndsScalar (Json.itemsLines depth xs ++ rest) := by
  cases xs with
  | nil =>
    rw [Json.itemsLines, List.append_assoc]
    exact endsScalar_newLine depth _
  | cons x xs =>
    rw [Json.itemsLines]
    exact endsScalar_comma _

/-- A scalar ends before the next member, and before the end of the object. -/
theorem endsScalar_membersLines (depth : Nat) (xs : List (String × Value)) (rest : List Char) :
    EndsScalar (Json.membersLines depth xs ++ rest) := by
  cases xs with
  | nil =>
    rw [Json.membersLines, List.append_assoc]
    exact endsScalar_newLine depth _
  | cons x xs =>
    rw [Json.membersLines]
    exact endsScalar_comma _

/-- A member up to its value. -/
theorem cuts_key (key : String) (depth : Nat) {rest : List Char} {r : Option (List Token)}
    (h : Cuts rest r) :
    Cuts (Json.newLine depth ++ (Json.quote key.toList ++ ':' :: ' ' :: rest))
      (gate (isPlainText key) [.text (some key), .mark ':'] r) := by
  have hcolon : Cuts (':' :: ' ' :: rest) (gate true [.mark ':'] r) :=
    cuts_mark (by decide) (cuts_space (by decide) h)
  have hkey := cuts_newLine depth (cuts_text key hcolon)
  rwa [gate_gate, Bool.and_true] at hkey

mutual

/-- The text of a value is cut into the tokens of the value. -/
theorem cuts_lines (v : Value) (hv : isCounting v = true) (depth : Nat) {rest : List Char}
    {r : Option (List Token)} (hrest : EndsScalar rest) (h : Cuts rest r) :
    Cuts (v.lines depth ++ rest) (gate (isPlain v) (tokens v) r) := by
  match v, hv with
  | .null, _ => exact cuts_word (show "null".toList ∈ _ by decide) hrest h
  | .bool true, _ => exact cuts_word (show "true".toList ∈ _ by decide) hrest h
  | .bool false, _ => exact cuts_word (show "false".toList ∈ _ by decide) hrest h
  | .int n, hv =>
    have hn : 0 ≤ n := by simpa [isCounting] using hv
    have htext : (Value.int n).lines depth = Decimal.digits n.natAbs := by
      show Json.intText n = _
      exact if_neg (Int.not_lt.mpr hn)
    rw [htext]
    exact cuts_number n.natAbs hrest h
  | .string s, _ => exact cuts_text s h
  | .array [], _ =>
    have hcut := cuts_mark (c := '[') (by decide) (cuts_mark (c := ']') (by decide) h)
    rwa [gate_gate] at hcut
  | .array (x :: xs), hv =>
    obtain ⟨hx, hxs⟩ := Bool.and_eq_true_iff.mp hv
    have hitems := cuts_itemsLines xs hxs depth h
    have hvalue := cuts_lines x hx (depth + 1) (endsScalar_itemsLines depth xs rest) hitems
    have hcut := cuts_mark (c := '[') (by decide) (cuts_newLine (depth + 1) hvalue)
    rw [gate_gate, gate_gate] at hcut
    rw [Value.lines, List.append_assoc, List.append_assoc]
    exact hcut
  | .object [], _ =>
    have hcut := cuts_mark (c := '{') (by decide) (cuts_mark (c := '}') (by decide) h)
    rwa [gate_gate] at hcut
  | .object ((k, x) :: xs), hv =>
    obtain ⟨hx, hxs⟩ := Bool.and_eq_true_iff.mp hv
    have hmembers := cuts_membersLines xs hxs depth h
    have hvalue := cuts_lines x hx (depth + 1) (endsScalar_membersLines depth xs rest) hmembers
    have hcut := cuts_mark (c := '{') (by decide) (cuts_key k (depth + 1) hvalue)
    rw [gate_gate, gate_gate, gate_gate] at hcut
    rw [Value.lines]
    simp only [List.append_assoc, List.cons_append]
    exact hcut

/-- The items after the first one, and the end of the list. -/
theorem cuts_itemsLines (xs : List Value) (hxs : itemsCounting xs = true) (depth : Nat)
    {rest : List Char} {r : Option (List Token)} (h : Cuts rest r) :
    Cuts (Json.itemsLines depth xs ++ rest) (gate (itemsPlain xs) (itemsTokens xs) r) := by
  match xs, hxs with
  | [], _ =>
    rw [Json.itemsLines, List.append_assoc]
    exact cuts_newLine depth (cuts_mark (by decide) h)
  | x :: xs, hxs =>
    obtain ⟨hx, hxs⟩ := Bool.and_eq_true_iff.mp hxs
    have hitems := cuts_itemsLines xs hxs depth h
    have hvalue := cuts_lines x hx (depth + 1) (endsScalar_itemsLines depth xs rest) hitems
    have hcut := cuts_mark (c := ',') (by decide) (cuts_newLine (depth + 1) hvalue)
    rw [gate_gate, gate_gate] at hcut
    rw [Json.itemsLines, List.append_assoc, List.append_assoc]
    exact hcut

/-- The members after the first one, and the end of the object. -/
theorem cuts_membersLines (xs : List (String × Value)) (hxs : membersCounting xs = true)
    (depth : Nat) {rest : List Char} {r : Option (List Token)} (h : Cuts rest r) :
    Cuts (Json.membersLines depth xs ++ rest) (gate (membersPlain xs) (membersTokens xs) r) := by
  match xs, hxs with
  | [], _ =>
    rw [Json.membersLines, List.append_assoc]
    exact cuts_newLine depth (cuts_mark (by decide) h)
  | (k, x) :: xs, hxs =>
    obtain ⟨hx, hxs⟩ := Bool.and_eq_true_iff.mp hxs
    have hmembers := cuts_membersLines xs hxs depth h
    have hvalue := cuts_lines x hx (depth + 1) (endsScalar_membersLines depth xs rest) hmembers
    have hcut := cuts_mark (c := ',') (by decide) (cuts_key k (depth + 1) hvalue)
    rw [gate_gate, gate_gate, gate_gate] at hcut
    rw [Json.membersLines]
    simp only [List.append_assoc, List.cons_append]
    exact hcut

end

/-- **The text of a value** without doubles is cut into the tokens of the value, provided that its
texts can be read. -/
theorem tokenize?_lines (v : Value) (hv : isCounting v = true) (depth : Nat) :
    tokenize? (v.lines depth) = if isPlain v then some (tokens v) else none := by
  have hcut := cuts_lines v hv depth endsScalar_nil cuts_nil
  rw [List.append_nil] at hcut
  refine (hcut (v.lines depth).length (Nat.le_refl _)).trans ?_
  unfold gate
  rw [Option.map_some, List.append_nil]

end Launcher.Settings.Json5
