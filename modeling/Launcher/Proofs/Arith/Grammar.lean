import Launcher.Proofs.Arith.Reading

namespace Launcher.Arith

/-!
# The grammar of expressions

The reader is a recursive descent with loops for sums and products. The grammar that it should
follow is left-recursive, as such grammars are written down. Soundness and completeness are proved
against that grammar, and the loops are where the work is: a loop is at a tree that it has so far,
and goes on from there.

* `Phrase`, `Derives` — the left-recursive grammar: which lists of tokens are a phrase, and with
  which tree.
* `expression_sound` and its companions — what is read is a phrase at the front of the tokens. For a
  loop this says that what it reads continues each phrase with the tree it has (`Continues`).
* `Derives.isRead` — a phrase at the front of tokens is read, unless what follows continues it. The
  induction is on the derivation; `IsRead` says of sums and products that the loop goes on from
  their tree, which is what the left operand needs.
* `reads_phrase_iff` — the functions read exactly the phrases, up to tokens that do not continue
  them.
* `Derives.unique` — a list of tokens has one tree, since there is one answer of the reader.
* `parse_follows_grammar` — texts are read as trees exactly as the grammar says.
-/

/-- The kinds of phrase, from the loosest to the tightest. -/
inductive Phrase where
  | expression
  | term
  | power
  | unary
  | primary
deriving Repr, DecidableEq

/-- The tokens of a phrase, and its tree. -/
inductive Derives : Phrase → List Token → Expr → Prop
  /-- `expression = expression (+|-) term` -/
  | sum {u v : List Token} {left right : Expr} {op : BinaryOp} (hop : op = .add ∨ op = .sub)
      (hleft : Derives .expression u left) (hright : Derives .term v right) :
      Derives .expression (u ++ .op op :: v) (.binary op left right)
  /-- `expression = term` -/
  | ofTerm {u : List Token} {e : Expr} (he : Derives .term u e) : Derives .expression u e
  /-- `term = term (*|/|%) power` -/
  | product {u v : List Token} {left right : Expr} {op : BinaryOp}
      (hop : op = .mul ∨ op = .div ∨ op = .rem) (hleft : Derives .term u left)
      (hright : Derives .power v right) : Derives .term (u ++ .op op :: v) (.binary op left right)
  /-- `term = power` -/
  | ofPower {u : List Token} {e : Expr} (he : Derives .power u e) : Derives .term u e
  /-- `power = unary '^' power` -/
  | power {u v : List Token} {base exponent : Expr} (hbase : Derives .unary u base)
      (hexponent : Derives .power v exponent) :
      Derives .power (u ++ .op .pow :: v) (.binary .pow base exponent)
  /-- `power = unary` -/
  | ofUnary {u : List Token} {e : Expr} (he : Derives .unary u e) : Derives .power u e
  /-- `unary = (+|-) unary` -/
  | signed {u : List Token} {operand : Expr} (op : UnaryOp) (hoperand : Derives .unary u operand) :
      Derives .unary (op.token :: u) (.unary op operand)
  /-- `unary = primary` -/
  | ofPrimary {u : List Token} {e : Expr} (he : Derives .primary u e) : Derives .unary u e
  /-- `primary = number` -/
  | number (value : Float) : Derives .primary [.number value] (.number value)
  /-- `primary = '(' expression ')'` -/
  | parens {u : List Token} {e : Expr} (he : Derives .expression u e) :
      Derives .primary (.openParen :: u ++ [.closeParen]) e

/-- The tokens without their offsets. -/
def bare (s : List Placed) : List Token :=
  s.map (·.token)

@[simp] theorem bare_nil : bare [] = [] := rfl

@[simp] theorem bare_cons (p : Placed) (s : List Placed) : bare (p :: s) = p.token :: bare s := rfl

/-- Offsets are forgotten token by token. -/
@[simp] theorem bare_append (s t : List Placed) : bare (s ++ t) = bare s ++ bare t :=
  List.map_append

/-- Tokens on both sides of one stand on both sides of it with their offsets. -/
theorem bare_eq_append_cons {s : List Placed} {u v : List Token} {token : Token}
    (h : bare s = u ++ token :: v) :
    ∃ front offset back, s = front ++ ⟨offset, token⟩ :: back ∧ bare front = u ∧ bare back = v := by
  obtain ⟨front, rest, rfl, rfl, hrest⟩ := List.map_eq_append_iff.mp h
  obtain ⟨⟨offset, _⟩, back, rfl, rfl, rfl⟩ := List.map_eq_cons_iff.mp hrest
  exact ⟨front, offset, back, rfl, rfl, rfl⟩

/-- The first token stands first with its offset. -/
theorem bare_eq_cons {s : List Placed} {u : List Token} {token : Token}
    (h : bare s = token :: u) : ∃ offset back, s = ⟨offset, token⟩ :: back ∧ bare back = u := by
  obtain ⟨⟨offset, _⟩, back, rfl, rfl, rfl⟩ := List.map_eq_cons_iff.mp h
  exact ⟨offset, back, rfl, rfl⟩

/-! ### What is read is a phrase -/

/-- Tokens begin with a phrase that has a tree. -/
def Begins (phrase : Phrase) (s : List Placed) (e : Expr) (rest : List Placed) : Prop :=
  ∃ u, s = u ++ rest ∧ Derives phrase (bare u) e

/-- Tokens begin with what continues each phrase with the tree `left` to one with the tree `e`. -/
def Continues (phrase : Phrase) (left : Expr) (s : List Placed) (e : Expr) (rest : List Placed) :
    Prop :=
  ∃ u, s = u ++ rest ∧ ∀ v, Derives phrase v left → Derives phrase (v ++ bare u) e

mutual

theorem expression_sound {e : Expr} {s rest : List Placed}
    (h : Reads (expression s) e rest) : Begins .expression s e rest := by
  obtain ⟨left, mid, hterm, htail⟩ := reads_expression.mp h
  have hmid : mid.length < s.length := hterm.left_over
  obtain ⟨u, rfl, hu⟩ := term_sound hterm
  obtain ⟨v, rfl, hv⟩ := expressionTail_sound htail
  exact ⟨u ++ v, by simp, by simpa using hv _ (.ofTerm hu)⟩
termination_by (s.length, 6)

theorem expressionTail_sound {e left : Expr} {s rest : List Placed}
    (h : Reads (expressionTail left s) e rest) : Continues .expression left s e rest := by
  rcases head_cases BinaryOp.isAdditive s with ⟨offset, op, tail, rfl, hop⟩ | hstop
  · obtain ⟨right, mid, hterm, htail⟩ := (reads_expressionTail_op hop).mp h
    -- The loop goes on with fewer tokens, from a greater tree.
    have hmid : mid.length < tail.length := hterm.left_over
    obtain ⟨u, rfl, hu⟩ := term_sound hterm
    obtain ⟨v, rfl, hv⟩ := expressionTail_sound htail
    refine ⟨⟨offset, .op op⟩ :: u ++ v, by simp, ?_⟩
    intro w hw
    have hsum := hv _ (.sum (op.isAdditive_iff.mp hop) hw hu)
    simpa using hsum
  · obtain ⟨rfl, rfl⟩ := (reads_expressionTail_stop hstop).mp h
    exact ⟨[], rfl, fun v hv => by simpa using hv⟩
termination_by (s.length, 5)

theorem term_sound {e : Expr} {s rest : List Placed}
    (h : Reads (term s) e rest) : Begins .term s e rest := by
  obtain ⟨left, mid, hpower, htail⟩ := reads_term.mp h
  have hmid : mid.length < s.length := hpower.left_over
  obtain ⟨u, rfl, hu⟩ := power_sound hpower
  obtain ⟨v, rfl, hv⟩ := termTail_sound htail
  exact ⟨u ++ v, by simp, by simpa using hv _ (.ofPower hu)⟩
termination_by (s.length, 4)

theorem termTail_sound {e left : Expr} {s rest : List Placed}
    (h : Reads (termTail left s) e rest) : Continues .term left s e rest := by
  rcases head_cases BinaryOp.isMultiplicative s with ⟨offset, op, tail, rfl, hop⟩ | hstop
  · obtain ⟨right, mid, hpower, htail⟩ := (reads_termTail_op hop).mp h
    have hmid : mid.length < tail.length := hpower.left_over
    obtain ⟨u, rfl, hu⟩ := power_sound hpower
    obtain ⟨v, rfl, hv⟩ := termTail_sound htail
    refine ⟨⟨offset, .op op⟩ :: u ++ v, by simp, ?_⟩
    intro w hw
    have hproduct := hv _ (.product (op.isMultiplicative_iff.mp hop) hw hu)
    simpa using hproduct
  · obtain ⟨rfl, rfl⟩ := (reads_termTail_stop hstop).mp h
    exact ⟨[], rfl, fun v hv => by simpa using hv⟩
termination_by (s.length, 3)

theorem power_sound {e : Expr} {s rest : List Placed}
    (h : Reads (power s) e rest) : Begins .power s e rest := by
  -- The exponent is a power itself, so powers group to the right.
  obtain ⟨base, mid, hbase, ⟨offset, tail, exponent, rfl, hexponent, rfl⟩ | ⟨-, rfl, rfl⟩⟩ :=
    reads_power.mp h
  · have htail : tail.length + 1 < s.length := hbase.left_over
    obtain ⟨u, rfl, hu⟩ := unary_sound hbase
    obtain ⟨v, rfl, hv⟩ := power_sound hexponent
    exact ⟨u ++ ⟨offset, .op .pow⟩ :: v, by simp, by simpa using Derives.power hu hv⟩
  · obtain ⟨u, rfl, hu⟩ := unary_sound hbase
    exact ⟨u, rfl, .ofUnary hu⟩
termination_by (s.length, 2)

theorem unary_sound {e : Expr} {s rest : List Placed}
    (h : Reads (unary s) e rest) : Begins .unary s e rest := by
  obtain ⟨op, offset, tail, operand, rfl, hoperand, rfl⟩ | hprimary := reads_unary.mp h
  · obtain ⟨u, rfl, hu⟩ := unary_sound hoperand
    exact ⟨⟨offset, op.token⟩ :: u, rfl, .signed op hu⟩
  · obtain ⟨u, rfl, hu⟩ := primary_sound hprimary
    exact ⟨u, rfl, .ofPrimary hu⟩
termination_by (s.length, 1)

theorem primary_sound {e : Expr} {s rest : List Placed}
    (h : Reads (primary s) e rest) : Begins .primary s e rest := by
  obtain ⟨offset, value, rfl, rfl⟩ | ⟨offset, tail, offset', rfl, hinner⟩ := reads_primary.mp h
  · exact ⟨[⟨offset, .number value⟩], rfl, .number value⟩
  · obtain ⟨u, rfl, hu⟩ := expression_sound hinner
    refine ⟨⟨offset, .openParen⟩ :: u ++ [⟨offset', .closeParen⟩], by simp, ?_⟩
    simpa using Derives.parens hu
termination_by (s.length, 0)

end

/-! ### A phrase is read -/

/-- A phrase in front of any tokens that do not continue it is read. Sums and products are read term
by term, so for them the loop goes on from their tree. -/
def IsRead (s : List Placed) (e : Expr) : Phrase → Prop
  | .primary => ∀ rest, Reads (primary (s ++ rest)) e rest
  | .unary => ∀ rest, Reads (unary (s ++ rest)) e rest
  | .power => ∀ rest, StopsAt (· == .pow) rest → Reads (power (s ++ rest)) e rest
  | .term => ∀ rest e' rest', StopsAt (· == .pow) rest →
      Reads (termTail e rest) e' rest' → Reads (term (s ++ rest)) e' rest'
  | .expression => ∀ rest e' rest', StopsAt (· == .pow) rest →
      StopsAt BinaryOp.isMultiplicative rest →
      Reads (expressionTail e rest) e' rest' → Reads (expression (s ++ rest)) e' rest'

/-- A phrase is read before all tokens that do not continue it. -/
theorem Derives.isRead {phrase : Phrase} {u : List Token} {e : Expr} (h : Derives phrase u e)
    {s : List Placed} (hs : bare s = u) : IsRead s e phrase := by
  induction h generalizing s with
  | @sum u v left right op hop hleft hright ihleft ihright =>
    obtain ⟨front, offset, back, rfl, hfront, hback⟩ := bare_eq_append_cons hs
    intro rest e' rest' hpow hmul htail
    rw [List.append_assoc]
    -- The left operand is read first; the operator that follows it continues the sum only.
    have hadd : op.isAdditive = true := op.isAdditive_iff.mpr hop
    refine ihleft hfront _ e' rest' (by rcases hop with rfl | rfl <;> simp)
      (by rcases hop with rfl | rfl <;> simp [BinaryOp.isMultiplicative]) ?_
    refine (reads_expressionTail_op hadd).mpr ⟨right, rest, ?_, htail⟩
    exact ihright hback rest right rest hpow ((reads_termTail_stop hmul).mpr ⟨rfl, rfl⟩)
  | @ofTerm u e he ih =>
    intro rest e' rest' hpow hmul htail
    refine reads_expression.mpr ⟨e, rest, ?_, htail⟩
    exact ih hs rest e rest hpow ((reads_termTail_stop hmul).mpr ⟨rfl, rfl⟩)
  | @product u v left right op hop hleft hright ihleft ihright =>
    obtain ⟨front, offset, back, rfl, hfront, hback⟩ := bare_eq_append_cons hs
    intro rest e' rest' hpow htail
    rw [List.append_assoc]
    have hmul : op.isMultiplicative = true := op.isMultiplicative_iff.mpr hop
    refine ihleft hfront _ e' rest' (by rcases hop with rfl | rfl | rfl <;> simp) ?_
    exact (reads_termTail_op hmul).mpr ⟨right, rest, ihright hback rest hpow, htail⟩
  | @ofPower u e he ih =>
    intro rest e' rest' hpow htail
    exact reads_term.mpr ⟨e, rest, ih hs rest hpow, htail⟩
  | @power u v base exponent hbase hexponent ihbase ihexponent =>
    obtain ⟨front, offset, back, rfl, hfront, hback⟩ := bare_eq_append_cons hs
    intro rest hpow
    rw [List.append_assoc]
    refine reads_power.mpr ⟨base, _, ihbase hfront _, .inl ?_⟩
    exact ⟨offset, back ++ rest, exponent, rfl, ihexponent hback rest hpow, rfl⟩
  | @ofUnary u e he ih =>
    intro rest hpow
    exact reads_power.mpr ⟨e, rest, ih hs rest, .inr ⟨hpow, rfl, rfl⟩⟩
  | @signed u operand op hoperand ih =>
    obtain ⟨offset, back, rfl, hback⟩ := bare_eq_cons hs
    intro rest
    exact reads_unary.mpr (.inl ⟨op, offset, back ++ rest, operand, rfl, ih hback rest, rfl⟩)
  | @ofPrimary u e he ih =>
    intro rest
    exact reads_unary.mpr (.inr (ih hs rest))
  | number value =>
    obtain ⟨offset, back, rfl, hback⟩ := bare_eq_cons hs
    obtain rfl := List.map_eq_nil_iff.mp hback
    intro rest
    exact reads_primary.mpr (.inl ⟨offset, value, rfl, rfl⟩)
  | @parens u e he ih =>
    obtain ⟨offset, inner, rfl, hinner⟩ := bare_eq_cons hs
    obtain ⟨front, offset', back, rfl, hfront, hback⟩ := bare_eq_append_cons hinner
    obtain rfl := List.map_eq_nil_iff.mp hback
    intro rest
    -- The parenthesis continues no phrase, so that the expression ends before it.
    have hinner : Reads (expression (front ++ ⟨offset', .closeParen⟩ :: rest)) e
        (⟨offset', .closeParen⟩ :: rest) :=
      ih hfront _ e _ stopsAt_closeParen stopsAt_closeParen
        ((reads_expressionTail_stop stopsAt_closeParen).mpr ⟨rfl, rfl⟩)
    exact reads_primary.mpr (.inr ⟨offset, _, offset', by simp, hinner⟩)

/-! ### Where phrases end -/

/-- The operators that continue a phrase. -/
def Phrase.isContinuedBy : Phrase → BinaryOp → Bool
  | .expression, _ => true
  | .term, op => op.isMultiplicative || op == .pow
  | .power, op => op == .pow
  | .unary, _ | .primary, _ => false

/-- No exponent is left behind a power. -/
theorem power_ends {e : Expr} {s rest : List Placed} (h : Reads (power s) e rest) :
    StopsAt (· == .pow) rest := by
  obtain ⟨base, mid, hbase, ⟨offset, tail, exponent, rfl, hexponent, -⟩ | ⟨hstop, -, rfl⟩⟩ :=
    reads_power.mp h
  · have htail : tail.length + 1 < s.length := hbase.left_over
    exact power_ends hexponent
  · exact hstop
termination_by s.length

/-- A product goes on as long as operators of its kind follow. -/
theorem termTail_ends {e left : Expr} {s rest : List Placed} (h : Reads (termTail left s) e rest) :
    StopsAt (· == .pow) s → StopsAt Phrase.term.isContinuedBy rest := by
  rcases head_cases BinaryOp.isMultiplicative s with ⟨offset, op, tail, rfl, hop⟩ | hstop
  · obtain ⟨right, mid, hpower, htail⟩ := (reads_termTail_op hop).mp h
    have hmid : mid.length < (⟨offset, .op op⟩ :: tail : List Placed).length :=
      Nat.lt_succ_of_lt hpower.left_over
    exact fun _ => termTail_ends htail (power_ends hpower)
  · obtain ⟨-, rfl⟩ := (reads_termTail_stop hstop).mp h
    intro hs op hop
    simpa [Phrase.isContinuedBy, hstop op hop] using hs op hop
termination_by s.length

/-- What is left behind a product continues none. -/
theorem term_ends {e : Expr} {s rest : List Placed} (h : Reads (term s) e rest) :
    StopsAt Phrase.term.isContinuedBy rest := by
  obtain ⟨left, mid, hpower, htail⟩ := reads_term.mp h
  exact termTail_ends htail (power_ends hpower)

/-- A sum goes on as long as operators of its kind follow. -/
theorem expressionTail_ends {e left : Expr} {s rest : List Placed}
    (h : Reads (expressionTail left s) e rest) :
    StopsAt Phrase.term.isContinuedBy s → StopsAt Phrase.expression.isContinuedBy rest := by
  rcases head_cases BinaryOp.isAdditive s with ⟨offset, op, tail, rfl, hop⟩ | hstop
  · obtain ⟨right, mid, hterm, htail⟩ := (reads_expressionTail_op hop).mp h
    have hmid : mid.length < (⟨offset, .op op⟩ :: tail : List Placed).length :=
      Nat.lt_succ_of_lt hterm.left_over
    exact fun _ => expressionTail_ends htail (term_ends hterm)
  · obtain ⟨-, rfl⟩ := (reads_expressionTail_stop hstop).mp h
    -- Each operator continues a sum, a product or a power, so that none is left.
    intro hs op hop
    have hadd := hstop op hop
    have hmul := hs op hop
    cases op <;> contradiction
termination_by s.length

/-- What is left behind a sum continues nothing. -/
theorem expression_ends {e : Expr} {s rest : List Placed} (h : Reads (expression s) e rest) :
    StopsAt Phrase.expression.isContinuedBy rest := by
  obtain ⟨left, mid, hterm, htail⟩ := reads_expression.mp h
  exact expressionTail_ends htail (term_ends hterm)

/-- The function that reads a phrase. -/
def readPhrase : Phrase → (s : List Placed) → Step s
  | .expression => expression
  | .term => term
  | .power => power
  | .unary => unary
  | .primary => primary

/-- What is read is a phrase, and the tokens that are left over do not continue it. -/
theorem phrase_sound {phrase : Phrase} {e : Expr} {s rest : List Placed}
    (h : Reads (readPhrase phrase s) e rest) :
    Begins phrase s e rest ∧ StopsAt phrase.isContinuedBy rest := by
  cases phrase with
  | expression => exact ⟨expression_sound h, expression_ends h⟩
  | term => exact ⟨term_sound h, term_ends h⟩
  | power => exact ⟨power_sound h, power_ends h⟩
  | unary => exact ⟨unary_sound h, fun _ _ => rfl⟩
  | primary => exact ⟨primary_sound h, fun _ _ => rfl⟩

/-- A phrase is read exactly up to tokens that do not continue it. -/
theorem reads_phrase_iff {phrase : Phrase} {e : Expr} {s rest : List Placed} :
    Reads (readPhrase phrase (s ++ rest)) e rest ↔
      Derives phrase (bare s) e ∧ StopsAt phrase.isContinuedBy rest := by
  constructor
  · intro h
    obtain ⟨⟨u, hu, hderives⟩, hends⟩ := phrase_sound h
    obtain rfl := List.append_cancel_right hu
    exact ⟨hderives, hends⟩
  · rintro ⟨hderives, hends⟩
    have hread := hderives.isRead rfl
    -- Tokens that continue nothing continue no part of the phrase.
    have hstop {kind : BinaryOp → Bool} (h : ∀ op, kind op = true → phrase.isContinuedBy op = true) :
        StopsAt kind rest := by
      intro op hop
      exact Bool.eq_false_iff.mpr fun hkind => Bool.eq_false_iff.mp (hends op hop) (h op hkind)
    cases phrase with
    | expression =>
      exact hread rest e rest (hstop fun _ _ => rfl) (hstop fun _ _ => rfl)
        ((reads_expressionTail_stop (hstop fun _ _ => rfl)).mpr ⟨rfl, rfl⟩)
    | term =>
      exact hread rest e rest (hstop fun _ h => by simp [Phrase.isContinuedBy, h])
        ((reads_termTail_stop (hstop fun _ h => by simp [Phrase.isContinuedBy, h])).mpr ⟨rfl, rfl⟩)
    | power => exact hread rest hends
    | unary | primary => exact hread rest

/-! ### Whole lists of tokens -/

/-- A list of tokens is read to its end exactly if it is a phrase. -/
theorem reads_whole_iff {phrase : Phrase} {s : List Placed} {e : Expr} :
    Reads (readPhrase phrase s) e [] ↔ Derives phrase (bare s) e := by
  rw [← List.append_nil s]
  simpa using @reads_phrase_iff phrase e s []

/-- A list of tokens has at most one tree. -/
theorem Derives.unique {phrase : Phrase} {u : List Token} {e e' : Expr}
    (h : Derives phrase u e) (h' : Derives phrase u e') : e = e' := by
  obtain ⟨s, rfl⟩ : ∃ s, bare s = u :=
    ⟨u.map fun token => ⟨0, token⟩, by simp [bare, Function.comp_def]⟩
  exact ((reads_whole_iff.mpr h).unique (reads_whole_iff.mpr h')).1

/-- Tokens are read as a tree exactly if it is derived for all of them. -/
theorem parseTokens_eq_ok_iff {tokens : List Placed} {e : Expr} :
    parseTokens tokens = .ok e ↔ Derives .expression (bare tokens) e := by
  rw [← reads_whole_iff]
  show _ ↔ Reads (expression tokens) e []
  unfold parseTokens
  split
  next stop hread => simp [Reads, hread]
  next e' h hread =>
    rw [hread, reads_ok]
    simp [eq_comm]
  next e' rest h hne hread =>
    rw [hread, reads_ok]
    refine iff_of_false (by simp) ?_
    rintro ⟨-, rfl⟩
    exact hne rfl

/-- The tokens of a text, without their offsets. -/
def bareTokens (s : List Char) : Except Fault (List Token) :=
  (tokenize s).map bare

/-- So is a text that has tokens. -/
theorem parse_eq_ok_iff {s : List Char} {e : Expr} :
    parse s = .ok e ↔ ∃ u, bareTokens s = .ok u ∧ Derives .expression u e := by
  unfold parse bareTokens
  cases htokens : tokenize s with
  | error fault => simp [bind, Except.bind, Except.map]
  | ok tokens => simp [bind, Except.bind, Except.map, parseTokens_eq_ok_iff]

/-! ### Main theorem -/

/-- How operators group that stand side by side. -/
structure Groups : Prop where
  /-- Sums group to the left. -/
  sum : ∀ {s u v w a b c op op'}, bareTokens s = .ok (u ++ .op op :: v ++ .op op' :: w) →
    (op = .add ∨ op = .sub) → (op' = .add ∨ op' = .sub) →
    Derives .expression u a → Derives .term v b → Derives .term w c →
    parse s = .ok (.binary op' (.binary op a b) c)
  /-- Products group to the left. -/
  product : ∀ {s u v w a b c op op'}, bareTokens s = .ok (u ++ .op op :: v ++ .op op' :: w) →
    (op = .mul ∨ op = .div ∨ op = .rem) → (op' = .mul ∨ op' = .div ∨ op' = .rem) →
    Derives .term u a → Derives .power v b → Derives .power w c →
    parse s = .ok (.binary op' (.binary op a b) c)
  /-- Powers group to the right. -/
  power : ∀ {s u v w a b c}, bareTokens s = .ok (u ++ .op .pow :: v ++ .op .pow :: w) →
    Derives .unary u a → Derives .unary v b → Derives .power w c →
    parse s = .ok (.binary .pow a (.binary .pow b c))
  /-- A sign belongs to the base of a power, and not to the power. -/
  sign : ∀ {s op u v a b}, bareTokens s = .ok (UnaryOp.token op :: u ++ .op .pow :: v) →
    Derives .unary u a → Derives .power v b →
    parse s = .ok (.binary .pow (.unary op a) b)

/-- Operators group as the grammar says. -/
theorem groups : Groups where
  sum hs hop hop' hu hv hw :=
    parse_eq_ok_iff.mpr ⟨_, hs, .sum hop' (.sum hop hu hv) hw⟩
  product hs hop hop' hu hv hw :=
    parse_eq_ok_iff.mpr ⟨_, hs, .ofTerm (.product hop' (.product hop hu hv) hw)⟩
  power hs hu hv hw := by
    rw [List.append_assoc] at hs
    exact parse_eq_ok_iff.mpr ⟨_, hs, .ofTerm (.ofPower (.power hu (.power hv hw)))⟩
  sign hs hu hv :=
    parse_eq_ok_iff.mpr ⟨_, hs, .ofTerm (.ofPower (.power (.signed _ hu) hv))⟩

/-- **Reading follows the grammar.** A text is read as a tree exactly if that is derived for all of
its tokens; there is at most one such tree, in which the operators group as they should. -/
theorem parse_follows_grammar :
    (∀ s e, parse s = .ok e ↔ ∃ u, bareTokens s = .ok u ∧ Derives .expression u e) ∧
    (∀ u e e', Derives .expression u e → Derives .expression u e' → e = e') ∧ Groups :=
  ⟨fun _ _ => parse_eq_ok_iff, fun _ _ _ h h' => h.unique h', groups⟩

/-- The tokens of `-2 ^ 3 ^ 2`. -/
example : parseTokens
      ([.op .sub, .number 2, .op .pow, .number 3, .op .pow, .number 2].map (⟨0, ·⟩)) =
    .ok (.binary .pow (.unary .minus (.number 2)) (.binary .pow (.number 3) (.number 2))) := by
  cbv

end Launcher.Arith
