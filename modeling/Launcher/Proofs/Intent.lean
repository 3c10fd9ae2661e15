import Launcher.Intent
import Launcher.Proofs.Color.Shapes
import Launcher.Proofs.Text.Pieces

namespace Launcher

/-!
# One interpreter for each query

Four interpreters are tried on a query, one after the other, and the first that claims it has it.
The order could matter, if two of them claimed one query. It does not: which of them can claim a
text is told by its first character, and by whether there are letters and commas in it.

* `Interpreter` — the four interpreters; `Interpreter.claims` says which queries each of them
  claims.
* `Interpreter.only` — the one interpreter that can claim a text. Calls of colors and of tools begin
  with different letters; of what else there is, conversions hold letters, lists of numbers commas,
  and expressions neither.
* `only_of_tool`, `only_of_color`, `only_of_conversion`, `only_of_arithmetic` — each interpreter
  claims only what it is told for.
* `Interpreter.eq_only` — no other interpreter claims it.
* `Intent.classify_of_read?` — so a query means what that one interpreter makes of it.
* `Intent.classify_any_order` — so a query means the same in whatever order they are tried.

There is one lemma for each interpreter, and none for each pair.
-/

/-- The interpreters of queries. -/
inductive Interpreter where
  | tool
  | color
  | conversion
  | arithmetic
deriving Repr, DecidableEq

namespace Interpreter

/-- The interpreter claims a query. -/
def claims (query : List Char) : Interpreter → Bool
  | tool => (Tool.Call.parse? query).isSome
  | color => Color.looksLikeColor query
  | conversion => (Conversion.parse? query).isSome
  | arithmetic => Arith.looksLikeExpression query

/-- What a query means to the interpreter, if it claims it. -/
def read? (query : List Char) : Interpreter → Option Intent
  | tool => (Tool.Call.parse? query).map .tool
  | color =>
    if Color.looksLikeColor query then some (.color (String.ofList (Text.trim query))) else none
  | conversion => (Conversion.parse? query).map .conversion
  | arithmetic =>
    if Arith.looksLikeExpression query then some (.arithmetic (String.ofList (Text.trim query)))
    else none

/-- An interpreter reads what it claims. -/
theorem isSome_read? (query : List Char) (i : Interpreter) :
    (i.read? query).isSome = i.claims query := by
  cases i with
  | tool | conversion => exact Option.isSome_map
  | color | arithmetic =>
    unfold read? claims
    dsimp only
    split
    next h => exact h.symm
    next h => exact (Bool.eq_false_iff.mpr h).symm

/-! ### Telling interpreters apart -/

/-- The first characters of colors that are no digits: a number sign, or the letter of a call. -/
def opensColor (c : Char) : Bool :=
  c == '#' || Text.lowerChar c == 'r' || Text.lowerChar c == 'h'

/-- The first characters of calls of a tool, among others: a `>`, or the letter of a word. -/
def opensTool (c : Char) : Bool :=
  c == '>' || Text.isLetter c

/-- The one interpreter that can claim a trimmed text. -/
def only (body : List Char) : Interpreter :=
  if body.head?.any opensColor then .color
  else if body.head?.any opensTool then .tool
  else if body.any Text.isLetter then .conversion
  else if ',' ∈ body then .color
  else .arithmetic

variable {query body : List Char}

/-- What is neither a letter nor a number sign begins no color. -/
theorem opensColor_eq_false {c : Char} (hletter : Text.isLetter c = false) (hne : c ≠ '#') :
    opensColor c = false := by
  have hlower (d : Char) (hd : Text.isLetter d = true) : Text.lowerChar c ≠ d := by
    intro h
    rw [Text.isLetter_of_lowerChar h hd] at hletter
    exact nomatch hletter
  have hr : Text.lowerChar c ≠ 'r' := hlower 'r' (by decide)
  have hh : Text.lowerChar c ≠ 'h' := hlower 'h' (by decide)
  simp [opensColor, hne, hr, hh]

/-- What is neither a letter nor a `>` begins no call of a tool. -/
theorem opensTool_eq_false {c : Char} (hletter : Text.isLetter c = false) (hne : c ≠ '>') :
    opensTool c = false := by
  simp [opensTool, hletter, hne]

/-- A character that opens neither a color nor a call of a tool: no letter, and no sign of its
own. -/
def IsPlain (c : Char) : Prop :=
  Text.isLetter c = false ∧ c ≠ '#' ∧ c ≠ '>'

instance (c : Char) : Decidable (IsPlain c) :=
  inferInstanceAs (Decidable (_ ∧ _))

/-- Digits are plain. -/
theorem isPlain_of_isDigit {c : Char} (h : Text.isDigit c = true) : IsPlain c := by
  have hne (d : Char) (hd : Text.isDigit d = false) : c ≠ d := by
    rintro rfl
    rw [h] at hd
    exact nomatch hd
  exact ⟨Text.isLetter_of_isDigit h, hne '#' (by decide), hne '>' (by decide)⟩

/-- Blanks are plain. -/
theorem isPlain_of_isBlank {c : Char} (h : Text.isBlank c = true) : IsPlain c := by
  have hne (d : Char) (hd : Text.isBlank d = false) : c ≠ d := by
    rintro rfl
    rw [h] at hd
    exact nomatch hd
  exact ⟨Text.isLetter_of_isBlank h, hne '#' (by decide), hne '>' (by decide)⟩

/-- A text whose first character is plain is told by its letters and commas. -/
theorem only_of_plain_head (h : ∀ c ∈ body.head?, IsPlain c) :
    only body =
      if body.any Text.isLetter then .conversion else if ',' ∈ body then .color
      else .arithmetic := by
  have hcolor : body.head?.any opensColor = false := by
    cases hhead : body.head? with
    | none => rfl
    | some c =>
      obtain ⟨hletter, hsharp, -⟩ := h c hhead
      exact opensColor_eq_false hletter hsharp
  have htool : body.head?.any opensTool = false := by
    cases hhead : body.head? with
    | none => rfl
    | some c =>
      obtain ⟨hletter, -, hangle⟩ := h c hhead
      exact opensTool_eq_false hletter hangle
  unfold only
  rw [hcolor, htool]
  rfl

/-- A plain text is for colors or arithmetic, as there is a comma in it or not. -/
theorem only_of_plain (h : ∀ c ∈ body, IsPlain c) :
    only body = if ',' ∈ body then .color else .arithmetic := by
  rw [only_of_plain_head fun c hc => h c (List.mem_of_mem_head? hc), if_neg]
  rw [List.any_eq_true]
  rintro ⟨c, hc, hletter⟩
  rw [(h c hc).1] at hletter
  exact nomatch hletter

/-! ### Tools -/

/-- A tool's word begins with a letter that no color begins with. -/
theorem opens_of_ofWord? {word : List Char} {tool : Tool} (h : Tool.ofWord? word = some tool) :
    ∃ c rest, word = c :: rest ∧ opensColor c = false ∧ opensTool c = true := by
  unfold Tool.ofWord? at h
  obtain ⟨⟨w, t⟩, hfound, -⟩ := Option.map_eq_some_iff.mp h
  obtain rfl : w.toList = word := by simpa using List.find?_some hfound
  have hmem := List.mem_of_find?_eq_some hfound
  simp only [Tool.words, List.mem_cons, List.not_mem_nil, or_false, Prod.mk.injEq] at hmem
  obtain ⟨rfl, -⟩ | ⟨rfl, -⟩ | ⟨rfl, -⟩ | ⟨rfl, -⟩ | ⟨rfl, -⟩ | ⟨rfl, -⟩ | ⟨rfl, -⟩ := hmem <;>
    exact ⟨_, _, rfl, by decide, by decide⟩

/-- The first word of a text begins as the text does. -/
theorem head?_of_splitAtBlank? {s word rest : List Char} {c : Char} {tail : List Char}
    (h : Text.splitAtBlank? s = some (word, rest)) (hword : word = c :: tail) :
    s.head? = some c := by
  obtain ⟨blank, -, rfl⟩ := Text.eq_append_of_splitAtBlank? h
  rw [hword]
  rfl

/-- A call of a tool begins with a `>` or with the letter of a word. -/
theorem only_of_tool {call : Tool.Call} (h : Tool.Call.parse? query = some call) :
    only (Text.trim query) = tool := by
  have hopens : ∃ c, (Text.trimStart query).head? = some c ∧ opensColor c = false ∧
      opensTool c = true := by
    unfold Tool.Call.parse? at h
    split at h
    next rest hs =>
      rw [hs]
      exact ⟨'>', rfl, by decide, by decide⟩
    next =>
      obtain ⟨⟨word, rest⟩, hsplit, hcall⟩ := Option.bind_eq_some_iff.mp h
      obtain ⟨t, hword, -⟩ := Option.bind_eq_some_iff.mp hcall
      obtain ⟨c, tail, hcons, hopens⟩ := opens_of_ofWord? hword
      exact ⟨c, head?_of_splitAtBlank? hsplit hcons, hopens⟩
  obtain ⟨c, hhead, hcolor, htool⟩ := hopens
  unfold only
  rw [Text.head?_trim, hhead, Option.any_some, Option.any_some, hcolor, htool]
  rfl

/-! ### Colors -/

/-- The call of a color begins with one of two letters, small or capital. -/
theorem only_of_isCall {name : String} {c : Char} (hname : name.toList.head? = some c)
    (hc : c = 'r' ∨ c = 'h') (h : Color.isCall name (Text.lower body) = true) :
    only body = color := by
  unfold Color.isCall at h
  rw [Bool.and_eq_true] at h
  obtain ⟨rest, hstrip⟩ := Option.isSome_iff_exists.mp h.1
  have hlower := Text.stripStart?_eq_some_iff.mp hstrip
  have hhead : (Text.lower body).head? = some c := by
    rw [hlower, List.append_assoc, List.head?_append, hname]
    rfl
  unfold Text.lower at hhead
  rw [List.head?_map] at hhead
  obtain ⟨d, hd, rfl⟩ := Option.map_eq_some_iff.mp hhead
  have hopens : opensColor d = true := by
    obtain hd | hd := hc <;> simp [opensColor, hd]
  unfold only
  rw [hd, Option.any_some, hopens]
  rfl

/-- Three numbers have commas between them, and no letters. -/
theorem only_of_isTriple (h : Color.isTriple body = true) : only body = color := by
  have hplain : ∀ c ∈ body, IsPlain c := by
    intro c hc
    obtain rfl | hblank | hdigit := Color.mem_of_isTriple h hc
    · decide
    · exact isPlain_of_isBlank hblank
    · exact isPlain_of_isDigit hdigit
  -- Without a comma there would be one part, not three.
  have hcomma : ',' ∈ body := Decidable.byContradiction fun hnone => by
    simp [Color.isTriple, Color.components, Text.splitOn_of_not_mem hnone] at h
  rw [only_of_plain hplain, if_pos hcomma]

/-- A color has one of these forms. -/
theorem only_of_color (h : Color.looksLikeColor query = true) :
    only (Text.trim query) = color := by
  unfold Color.looksLikeColor at h
  split at h
  next digits hbody =>
    rw [hbody]
    rfl
  next =>
    rw [Bool.or_eq_true, Bool.or_eq_true] at h
    obtain (hrgb | hhsl) | htriple := h
    · exact only_of_isCall (c := 'r') rfl (.inl rfl) hrgb
    · exact only_of_isCall (c := 'h') rfl (.inr rfl) hhsl
    · exact only_of_isTriple htriple

/-! ### Conversions -/

/-- A number begins with a sign, a digit or a point. -/
theorem head?_of_signedDecimal? {s : List Char} {parts : List Char × List Char}
    (h : signedDecimal? s = some parts) :
    ∃ c, s.head? = some c ∧ (c = '+' ∨ c = '-' ∨ c = '.' ∨ Text.isDigit c = true) := by
  cases s with
  | nil => exact nomatch h
  | cons c rest =>
    refine ⟨c, rfl, Decidable.byContradiction fun hother => ?_⟩
    simp only [not_or, Bool.not_eq_true] at hother
    obtain ⟨hplus, hminus, hpoint, hdigit⟩ := hother
    -- Nothing stands before the first character, so there is no digit.
    have hspan : Decimal.spanDigits (c :: rest) = ([], c :: rest) := by
      simp [Decimal.spanDigits, hdigit]
    unfold signedDecimal? at h
    split at h
    -- No sign was taken, so the text is read as it stands.
    next sign body heq =>
      obtain ⟨rfl, rfl⟩ : sign = [] ∧ body = c :: rest := by
        split at heq
        next hcons => exact absurd (List.cons.inj hcons).1 hplus
        next hcons => exact absurd (List.cons.inj hcons).1 hminus
        next =>
          cases heq
          exact ⟨rfl, rfl⟩
      rw [hspan] at h
      dsimp only at h
      split at h
      next hcons => exact absurd (List.cons.inj hcons).1 hpoint
      next => simp at h

/-- A conversion begins as a number does, and has the word between its units in it. -/
theorem of_conversion {conversion : Conversion} (h : Conversion.parse? query = some conversion) :
    (∃ c, (Text.trim query).head? = some c ∧
      (c = '+' ∨ c = '-' ∨ c = '.' ∨ Text.isDigit c = true)) ∧
    (Text.trim query).any Text.isLetter = true := by
  unfold Conversion.parse? at h
  obtain ⟨⟨left, right⟩, hcut, h⟩ := Option.bind_eq_some_iff.mp h
  obtain ⟨⟨before, after⟩, hcutLast, hparts⟩ := Option.map_eq_some_iff.mp hcut
  obtain ⟨rfl, -⟩ := Prod.mk.inj hparts
  dsimp only at h
  split at h
  next => exact nomatch h
  next =>
    obtain ⟨⟨number, rest⟩, hnumber, -⟩ := Option.bind_eq_some_iff.mp h
    obtain ⟨c, hhead, hc⟩ := head?_of_signedDecimal? hnumber
    constructor
    · -- What stands before the word begins as the whole text does.
      have hfirst : ∀ d ∈ ((Text.trim query).take before.length).head?, Text.isBlank d = false := by
        intro d hd
        rw [List.head?_take] at hd
        split at hd
        next => exact nomatch hd
        next => exact Text.isBlank_of_mem_head?_trim hd
      rw [Text.head?_trim_of_head? hfirst, List.head?_take] at hhead
      split at hhead
      next => exact nomatch hhead
      next => exact ⟨c, hhead, hc⟩
    · -- The word was found in lower case, and only a letter has a letter there.
      have hlower := Text.eq_append_of_cutAtLast? hcutLast
      have ht : 't' ∈ Text.lower (Text.trim query) := by
        rw [hlower]
        exact List.mem_append_left _ (List.mem_append_right _ (by decide))
      obtain ⟨d, hd, hlowerChar⟩ := List.mem_map.mp ht
      rw [List.any_eq_true]
      exact ⟨d, hd, Text.isLetter_of_lowerChar hlowerChar (by decide)⟩

/-- A conversion begins with a number and holds the letters of its word. -/
theorem only_of_conversion {c : Conversion} (h : Conversion.parse? query = some c) :
    only (Text.trim query) = conversion := by
  obtain ⟨⟨c, hhead, hc⟩, hletter⟩ := of_conversion h
  have hplain : IsPlain c := by
    obtain rfl | rfl | rfl | hdigit := hc
    · decide
    · decide
    · decide
    · exact isPlain_of_isDigit hdigit
  rw [only_of_plain_head, if_pos hletter]
  intro d hd
  rw [hhead] at hd
  obtain rfl := Option.some.inj hd
  exact hplain

/-! ### Expressions -/

/-- The characters of an expression are plain, and no commas. -/
theorem isPlain_of_expression {c : Char}
    (h : (Arith.isNumeric c || Text.isBlank c || (Arith.symbol? c).isSome) = true) :
    IsPlain c ∧ c ≠ ',' := by
  have hcomma : c ≠ ',' := by
    rintro rfl
    exact absurd h (by decide)
  refine ⟨?_, hcomma⟩
  rw [Bool.or_eq_true, Bool.or_eq_true] at h
  obtain (hnumeric | hblank) | hsymbol := h
  · unfold Arith.isNumeric at hnumeric
    rw [Bool.or_eq_true, beq_iff_eq] at hnumeric
    obtain hdigit | rfl := hnumeric
    · exact isPlain_of_isDigit hdigit
    · decide
  · exact isPlain_of_isBlank hblank
  · unfold Arith.symbol? at hsymbol
    split at hsymbol
    all_goals first | decide | exact nomatch hsymbol

/-- An expression holds neither letters nor commas. -/
theorem only_of_arithmetic (h : Arith.looksLikeExpression query = true) :
    only (Text.trim query) = arithmetic := by
  unfold Arith.looksLikeExpression at h
  dsimp only at h
  rw [Bool.and_eq_true, List.all_eq_true] at h
  rw [only_of_plain fun c hc => (isPlain_of_expression (h.1 c hc)).1, if_neg]
  intro hcomma
  exact (isPlain_of_expression (h.1 ',' hcomma)).2 rfl

/-- **No other interpreter claims a query** than the one that its characters tell. -/
theorem eq_only {i : Interpreter} (h : i.claims query = true) : i = only (Text.trim query) := by
  cases i with
  | tool =>
    obtain ⟨call, hcall⟩ := Option.isSome_iff_exists.mp h
    exact (only_of_tool hcall).symm
  | color => exact (only_of_color h).symm
  | conversion =>
    obtain ⟨conversion, hconversion⟩ := Option.isSome_iff_exists.mp h
    exact (only_of_conversion hconversion).symm
  | arithmetic => exact (only_of_arithmetic h).symm

end Interpreter

/-! ### Any order -/

namespace Intent

open Interpreter

/-- What a query means if the interpreters are tried in some order: the first one that claims it
has it. -/
def tryIn (order : List Interpreter) (query : List Char) : Intent :=
  (order.findSome? (·.read? query)).getD (.freeText (String.ofList (Text.trim query)))

/-- The program tries tools, colors, conversions and arithmetic in this order. -/
theorem classify_eq_tryIn (query : List Char) :
    classify query = tryIn [.tool, .color, .conversion, .arithmetic] query := by
  unfold classify tryIn
  simp only [List.findSome?_cons, List.findSome?_nil, read?]
  cases Tool.Call.parse? query with
  | some call => rfl
  | none =>
    cases Color.looksLikeColor query with
    | true => rfl
    | false =>
      cases Conversion.parse? query with
      | some conversion => rfl
      | none => cases Arith.looksLikeExpression query <;> rfl

/-- What is told for another interpreter is not read. -/
theorem read?_eq_none {query : List Char} {i : Interpreter} (h : i ≠ only (Text.trim query)) :
    i.read? query = none := by
  rw [← Option.not_isSome_iff_eq_none, isSome_read?]
  exact fun hclaims => h (eq_only hclaims)

/-- Whatever the order, the meaning of a query is what its one interpreter reads. -/
theorem tryIn_eq {order : List Interpreter} (horder : ∀ i, i ∈ order) (query : List Char) :
    tryIn order query = ((only (Text.trim query)).read? query).getD
      (.freeText (String.ofList (Text.trim query))) := by
  unfold tryIn
  congr 1
  cases hread : (only (Text.trim query)).read? query with
  | none =>
    rw [List.findSome?_eq_none_iff]
    intro i _
    by_cases hi : i = only (Text.trim query)
    · rw [hi]
      exact hread
    · exact read?_eq_none hi
  | some intent =>
    -- Those that come before it read nothing.
    obtain ⟨before, after, hsplit, hbefore⟩ :=
      List.eq_append_cons_of_mem (horder (only (Text.trim query)))
    rw [hsplit, List.findSome?_append, List.findSome?_eq_none_iff.mpr, List.findSome?_cons, hread]
    · rfl
    · intro i hi
      refine read?_eq_none ?_
      rintro rfl
      exact hbefore hi

/-- What an interpreter makes of a query it claims is what the query means. -/
theorem classify_of_read? {query : List Char} {i : Interpreter} {intent : Intent}
    (h : i.read? query = some intent) : classify query = intent := by
  have hclaims : i.claims query = true := by
    rw [← isSome_read?, h]
    rfl
  rw [classify_eq_tryIn, tryIn_eq, ← eq_only hclaims, h]
  · rfl
  · intro j
    cases j <;> decide

/-- **At most one interpreter claims a query**, and so a query means the same in whatever order the
four are tried. -/
theorem classify_any_order (query : List Char) :
    (∀ i j : Interpreter, i.claims query = true → j.claims query = true → i = j) ∧
      ∀ order : List Interpreter, (∀ i, i ∈ order) → tryIn order query = classify query := by
  constructor
  · intro i j hi hj
    rw [eq_only hi, eq_only hj]
  · intro order horder
    rw [classify_eq_tryIn, tryIn_eq horder, tryIn_eq]
    intro i
    cases i <;> decide

/-- A conversion whose number and unit stand together is one in the opposite order as well. -/
theorem classify_any_order_conversion :
    let query := "-10km to mi".toList
    let order : List Interpreter := [.arithmetic, .conversion, .color, .tool]
    Interpreter.conversion.claims query = true ∧ (∀ i, i ∈ order) ∧
      (∀ i : Interpreter, i.claims query = true → i = .conversion) ∧
      tryIn order query = classify query := by
  intro query order
  have hclaims : Interpreter.conversion.claims query = true := by decide +kernel
  have horder : ∀ i, i ∈ order := by
    intro i
    cases i <;> decide
  obtain ⟨hunique, hany⟩ := classify_any_order query
  exact ⟨hclaims, horder, fun i hi => hunique i .conversion hi hclaims, hany order horder⟩

end Intent

end Launcher
