import Launcher.Proofs.Arith.Failures
import Launcher.Proofs.Arith.Misspellings
import Launcher.Proofs.Intent

namespace Launcher.Arith

/-!
# Texts that look like expressions

Before a query is read as an expression, its look is tested: its characters have to be those of
expressions, with a digit among them. The test knows no grammar. So it lets texts pass that are
none, and what can be wrong with those is the question here; the other way round, no expression may
fail the test.

* `Complains`, `expression_complains` and its companions — reading tokens is given up for a token
  that is out of place or missing, and for nothing else.
* `Derives.exists_number` — a phrase holds a number, so a text that is read holds a digit.
* `looksLikeExpression_of_parse` — and so it looks like an expression: its other characters are
  allowed, since it has tokens.
* `Objection`, `parse_error_objection` — what is wrong with a text that looks like one and is none:
  a numeral, or a token. A character cannot be, as the test has seen them all.
* `classify_of_evaluate` — a text that has a value is taken for arithmetic.
* `looksLikeExpression_agrees` — the look of a text and its reading agree.
-/

/-! ### Tokens out of place -/

/-- The faults of tokens that stand in the wrong place, or do not stand where one has to. -/
def SyntaxFault.isMisplaced : SyntaxFault → Bool
  | .trailingInput | .expectedClose | .expectedOperand | .endOfExpression => true
  | .invalidNumber _ | .unexpectedCharacter _ => false

/-- If a phrase is not read, a token is out of place or missing. -/
def Complains {P : List Placed → Prop}
    (answer : Except Stop (Expr × { rest : List Placed // P rest })) : Prop :=
  ∀ stop, answer = .error stop → stop.fault.isMisplaced = true

section

variable {P Q : List Placed → Prop} {e : Expr} {rest : List Placed}

theorem complains_pure {h : P rest} :
    Complains (pure (e, ⟨rest, h⟩) : Except Stop (Expr × { rest : List Placed // P rest })) := by
  rintro stop ⟨⟩

/-- A complaint is about a token. -/
theorem complains_throw {fault : SyntaxFault} (h : fault.isMisplaced = true) :
    Complains (throw ⟨fault, rest⟩ : Except Stop (Expr × { rest : List Placed // P rest })) := by
  rintro stop ⟨⟩
  exact h

/-- If the first phrase is read, what comes behind it may be complained about. -/
theorem Complains.bind {answer : Except Stop (Expr × { rest : List Placed // P rest })}
    {next : Expr × { rest : List Placed // P rest } →
      Except Stop (Expr × { rest : List Placed // Q rest })} (h : Complains answer)
    (hnext : ∀ e rest, ∀ hread : Reads answer e rest,
      Complains (next (e, ⟨rest, hread.left_over⟩))) : Complains (answer >>= next) := by
  cases answer with
  | error stop =>
    rintro _ ⟨⟩
    exact h stop rfl
  | ok answer =>
    obtain ⟨e, rest, hrest⟩ := answer
    exact hnext e rest (reads_ok.mpr ⟨rfl, rfl⟩)

/-- A phrase that is read is not complained about. -/
theorem Reads.complains {answer : Except Stop (Expr × { rest : List Placed // P rest })}
    (h : Reads answer e rest) : Complains answer := by
  obtain ⟨hrest, rfl⟩ := h
  exact complains_pure

end

-- Along the calls of the reader: each is for fewer tokens, or for as many and a tighter phrase.
mutual

theorem expression_complains (s : List Placed) : Complains (expression s) := by
  rw [expression]
  refine (term_complains s).bind fun left mid hleft => ?_
  have hmid : mid.length < s.length := hleft.left_over
  exact (expressionTail_complains left mid).bind fun _ _ _ => complains_pure
termination_by (s.length, 6)

theorem expressionTail_complains (left : Expr) (s : List Placed) :
    Complains (expressionTail left s) := by
  rcases head_cases BinaryOp.isAdditive s with ⟨offset, op, tail, hs, hop⟩ | hstop
  · have htail : tail.length < s.length := by simp [hs]
    rw [hs, expressionTail, if_pos hop]
    refine (term_complains tail).bind fun right mid hright => ?_
    have hmid : mid.length < tail.length := hright.left_over
    exact (expressionTail_complains _ mid).bind fun _ _ _ => complains_pure
  · exact ((reads_expressionTail_stop hstop).mpr ⟨rfl, rfl⟩).complains
termination_by (s.length, 5)

theorem term_complains (s : List Placed) : Complains (term s) := by
  rw [term]
  refine (power_complains s).bind fun left mid hleft => ?_
  have hmid : mid.length < s.length := hleft.left_over
  exact (termTail_complains left mid).bind fun _ _ _ => complains_pure
termination_by (s.length, 4)

theorem termTail_complains (left : Expr) (s : List Placed) : Complains (termTail left s) := by
  rcases head_cases BinaryOp.isMultiplicative s with ⟨offset, op, tail, hs, hop⟩ | hstop
  · have htail : tail.length < s.length := by simp [hs]
    rw [hs, termTail, if_pos hop]
    refine (power_complains tail).bind fun right mid hright => ?_
    have hmid : mid.length < tail.length := hright.left_over
    exact (termTail_complains _ mid).bind fun _ _ _ => complains_pure
  · exact ((reads_termTail_stop hstop).mpr ⟨rfl, rfl⟩).complains
termination_by (s.length, 3)

theorem power_complains (s : List Placed) : Complains (power s) := by
  rw [power]
  refine (unary_complains s).bind fun base mid hbase => ?_
  dsimp only
  split
  next offset tail h =>
    have htail : tail.length + 1 < s.length := h
    exact (power_complains tail).bind fun _ _ _ => complains_pure
  next => exact complains_pure
termination_by (s.length, 2)

theorem unary_complains (s : List Placed) : Complains (unary s) := by
  rw [unary.eq_def]
  split
  next offset tail => exact (unary_complains tail).bind fun _ _ _ => complains_pure
  next offset tail => exact (unary_complains tail).bind fun _ _ _ => complains_pure
  next => exact primary_complains s
termination_by (s.length, 1)

theorem primary_complains (s : List Placed) : Complains (primary s) := by
  rw [primary.eq_def]
  split
  next => exact complains_pure
  next offset tail =>
    -- Between parentheses there is a whole expression, in fewer tokens.
    refine (expression_complains tail).bind fun e mid hinner => ?_
    dsimp only
    split
    next => exact complains_pure
    next => exact complains_throw rfl
  next => exact complains_throw rfl
  next => exact complains_throw rfl
termination_by (s.length, 0)

end

/-- Tokens are refused for one of them that is out of place or missing. -/
theorem isMisplaced_of_parseTokens {tokens : List Placed} {offset : Nat} {fault : SyntaxFault}
    (h : parseTokens tokens = .error (.malformed offset fault)) : fault.isMisplaced = true := by
  unfold parseTokens at h
  split at h
  next stop hstop =>
    cases h
    exact expression_complains tokens stop hstop
  next => cases h
  next =>
    cases h
    rfl

/-! ### Digits -/

/-- There is a number in a phrase. -/
theorem Derives.exists_number {phrase : Phrase} {u : List Token} {e : Expr}
    (h : Derives phrase u e) : ∃ value, Token.number value ∈ u := by
  induction h with
  | sum _ _ _ ih _ | product _ _ _ ih _ | power _ _ ih _ =>
    obtain ⟨value, hvalue⟩ := ih
    exact ⟨value, List.mem_append_left _ hvalue⟩
  | ofTerm _ ih | ofPower _ ih | ofUnary _ ih | ofPrimary _ ih => exact ih
  | signed op _ ih =>
    obtain ⟨value, hvalue⟩ := ih
    exact ⟨value, List.mem_cons_of_mem _ hvalue⟩
  | number value => exact ⟨value, List.mem_singleton_self _⟩
  | parens _ ih =>
    obtain ⟨value, hvalue⟩ := ih
    exact ⟨value, List.mem_append_left _ (List.mem_cons_of_mem _ hvalue)⟩

/-- No symbol is a number. -/
theorem symbol?_ne_number (c : Char) (value : Float) : symbol? c ≠ some (.number value) := by
  unfold symbol?
  split <;> simp

/-- A number is spelled with a digit. -/
theorem Placed.StandsIn.exists_digit {p : Placed} {s : List Char} (h : p.StandsIn s)
    {value : Float} (hp : p.token = .number value) : ∃ c ∈ s, Text.isDigit c = true := by
  obtain ⟨c, back, hdrop, hsymbol | ⟨value', -, hc, hvalue⟩⟩ := h
  · rw [hp] at hsymbol
    exact absurd hsymbol (symbol?_ne_number c value)
  · have hrun : ∀ d ∈ c :: back.takeWhile isNumeric, isNumeric d = true :=
      List.forall_mem_cons.mpr ⟨hc, fun d hd => List.mem_takeWhile_imp hd⟩
    have hnumeral := (isSome_readUnsigned?_iff hrun false).mp (by rw [hvalue]; rfl)
    obtain ⟨d, hd, hdigit⟩ := List.any_eq_true.mp hnumeral.1
    have hback : d ∈ c :: back :=
      List.cons_subset_cons c (List.takeWhile_sublist isNumeric).subset hd
    exact ⟨d, List.mem_of_mem_drop (hdrop ▸ hback), hdigit⟩

/-- **A text that is read looks like an expression.** -/
theorem looksLikeExpression_of_parse {s : List Char} {e : Expr} (h : parse s = .ok e) :
    looksLikeExpression s = true := by
  unfold parse at h
  cases htokens : tokenize s with
  | error fault =>
    rw [htokens] at h
    cases h
  | ok tokens =>
    rw [htokens] at h
    obtain ⟨value, hvalue⟩ := (parseTokens_eq_ok_iff.mp h).exists_number
    obtain ⟨p, hp, hnumber⟩ := List.mem_map.mp hvalue
    have hstands := (tokenize_spelled htokens).stands p hp
    exact looksLikeExpression_iff.mpr
      ⟨isAllowed_of_tokenizeFrom htokens, hstands.exists_digit hnumber⟩

/-! ### Objections -/

/-- What is wrong with a text of the right characters: a run of digits and points is no numeral, or
the tokens are in order up to one that is out of place or missing. -/
inductive Objection (s : List Char) : Fault → Prop
  | numeral {offset : Nat} {run : List Char} (hrun : IsRunAt s offset run) (h : ¬IsNumeral run) :
      Objection s (.malformed offset (.invalidNumber (String.ofList run)))
  | token {tokens : List Placed} {offset k : Nat} {fault : SyntaxFault}
      (htokens : tokenize s = .ok tokens) (hfault : fault.isMisplaced = true)
      (h : PointsAt tokens offset k) : Objection s (.malformed offset fault)

/-- No character is objected to. -/
theorem Objection.ne_unexpectedCharacter {s : List Char} {fault : Fault} (h : Objection s fault)
    (offset : Nat) (c : Char) : fault ≠ .malformed offset (.unexpectedCharacter c) := by
  rintro rfl
  cases h with
  | token _ hfault _ => exact nomatch hfault

/-- **A text that looks like an expression and is none** is objected to for a numeral or a token. -/
theorem parse_error_objection {s : List Char} {fault : Fault}
    (hlooks : looksLikeExpression s = true) (h : parse s = .error fault) : Objection s fault := by
  unfold parse at h
  cases htokens : tokenize s with
  | error fault' =>
    rw [htokens] at h
    cases h
    -- There are no tokens: a run is no numeral, as all characters are allowed.
    have hmisspelling := tokenizeFrom_misspelling s [] (by simp [Parted]) htokens
    cases hmisspelling with
    | numeral hrun hnot => exact .numeral hrun hnot
    | character hc hnot => exact absurd ((looksLikeExpression_iff.mp hlooks).1 _ hc) hnot
  | ok tokens =>
    have herror : parseTokens tokens = .error fault := by
      rw [htokens] at h
      exact h
    have hnone : ∀ e, parseTokens tokens ≠ .ok e := by
      rw [herror]
      simp
    obtain ⟨offset, misplaced, k, hfault, hpoints⟩ := parseTokens_error_points hnone
    obtain rfl := Except.error.inj (herror.symm.trans hfault)
    exact .token htokens (isMisplaced_of_parseTokens hfault) hpoints

/-! ### Main theorem -/

/-- A text that has a value is taken for arithmetic. -/
theorem classify_of_evaluate {s : List Char} {x : Float} (h : evaluate s = .ok x) :
    Intent.classify s = .arithmetic (String.ofList (Text.trim s)) := by
  unfold evaluate at h
  cases hparse : parse s with
  | error fault =>
    rw [hparse] at h
    cases h
  | ok e =>
    have hread : Interpreter.arithmetic.read? s =
        some (.arithmetic (String.ofList (Text.trim s))) :=
      if_pos (looksLikeExpression_of_parse hparse)
    exact Intent.classify_of_read? hread

/-- **The look of a text and its reading agree.** A text that is read looks like an expression; one
that looks like an expression and is not read has a run that is no numeral, or a token that is out
of place or missing, but no character that expressions do not have; and one that has a value is
taken for arithmetic. -/
theorem looksLikeExpression_agrees (s : List Char) :
    (∀ e, parse s = .ok e → looksLikeExpression s = true) ∧
      (looksLikeExpression s = true → ∀ fault, parse s = .error fault →
        Objection s fault ∧ ∀ offset c, fault ≠ .malformed offset (.unexpectedCharacter c)) ∧
      ∀ x, evaluate s = .ok x → Intent.classify s = .arithmetic (String.ofList (Text.trim s)) := by
  refine ⟨fun e => looksLikeExpression_of_parse, fun hlooks fault hfault => ?_,
    fun x => classify_of_evaluate⟩
  have hobjection := parse_error_objection hlooks hfault
  exact ⟨hobjection, hobjection.ne_unexpectedCharacter⟩

/-- A sum between parentheses, and one point too many. -/
theorem looksLikeExpression_agrees_sum :
    (∃ e, parse " (1 + 2)".toList = .ok e ∧ looksLikeExpression " (1 + 2)".toList = true) ∧
      (looksLikeExpression "2 * 1..2".toList = true ∧
        ∃ fault, parse "2 * 1..2".toList = .error fault ∧ Objection "2 * 1..2".toList fault) ∧
      ∃ x, evaluate " (1 + 2)".toList = .ok x ∧
        Intent.classify " (1 + 2)".toList = .arithmetic "(1 + 2)" := by
  have hone : Decimal.readUnsigned? false ['1'] = some (Decimal.ofScientific false 1 0) := by
    decide +kernel
  have htwo : Decimal.readUnsigned? false ['2'] = some (Decimal.ofScientific false 2 0) := by
    decide +kernel
  have hpoints : Decimal.readUnsigned? false ['1', '.', '.', '2'] = none := by decide +kernel
  have hdigits : ['1', '2', '.'].all (fun c => isNumeric c && !Text.isBlank c) = true := by decide
  have hsymbols : ['+', '*', '(', ')'].all (fun c => !isNumeric c && !Text.isBlank c) = true := by
    decide
  have hblank : isNumeric ' ' = false ∧ Text.isBlank ' ' = true := by decide
  simp only [List.all_cons, List.all_nil, Bool.and_eq_true, Bool.not_eq_true'] at hdigits hsymbols
  have htokens : tokenize " (1 + 2)".toList = .ok [⟨1, .openParen⟩,
      ⟨2, .number (Decimal.ofScientific false 1 0)⟩, ⟨4, .op .add⟩,
      ⟨6, .number (Decimal.ofScientific false 2 0)⟩, ⟨7, .closeParen⟩] := by
    simp [tokenize, tokenizeFrom, hdigits, hsymbols, hblank, hone, htwo, symbol?, bind,
      Except.bind, pure, Except.pure]
  have hparse : parse " (1 + 2)".toList = .ok (.binary .add
      (.number (Decimal.ofScientific false 1 0)) (.number (Decimal.ofScientific false 2 0))) := by
    rw [parse, htokens]
    exact parseTokens_eq_ok_iff.mpr (.ofTerm (.ofPower (.ofUnary (.ofPrimary (.parens
      (.sum (u := [_]) (.inl rfl) (.ofTerm (.ofPower (.ofUnary (.ofPrimary (.number _)))))
        (.ofPower (.ofUnary (.ofPrimary (.number _))))))))))
  have hvalue : ∃ x, evaluate " (1 + 2)".toList = .ok x := by
    have hfinite : Decimal.isFinite
        (Decimal.ofScientific false 1 0 + Decimal.ofScientific false 2 0) = true := by
      decide +kernel
    rw [evaluate, hparse]
    exact ⟨_, if_pos hfinite⟩
  have hfault : ∃ fault, parse "2 * 1..2".toList = .error fault := by
    refine ⟨.malformed 4 (.invalidNumber "1..2"), ?_⟩
    simp [parse, tokenize, tokenizeFrom, hdigits, hsymbols, hblank, htwo, hpoints, symbol?, bind,
      Except.bind]
  have hlooks : looksLikeExpression "2 * 1..2".toList = true := by decide +kernel
  obtain ⟨x, hx⟩ := hvalue
  obtain ⟨fault, hfault⟩ := hfault
  have hsum := looksLikeExpression_agrees " (1 + 2)".toList
  have hproduct := looksLikeExpression_agrees "2 * 1..2".toList
  exact ⟨⟨_, hparse, hsum.1 _ hparse⟩,
    ⟨hlooks, fault, hfault, (hproduct.2.1 hlooks fault hfault).1⟩, x, hx, hsum.2.2 x hx⟩

end Launcher.Arith
