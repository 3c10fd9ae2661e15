import Launcher.Proofs.Arith.Grammar
import Launcher.Proofs.Arith.Spelling

namespace Launcher.Arith

/-!
# Where reading is given up

A syntax error has an offset, and the claim is that it is the right one: the tokens before it could
still become an expression, and with the token at it they no longer can. The first half needs
completions of what was read; the second has to hold whatever comes after. Both are carried along as
one property of a phrase that is given up.

* `Fails` — a phrase was not read: the tokens at which that was noticed. `fails_expression` and its
  companions say when, by the parts of which the phrase consists.
* `Reads.relocate` — what was read before some tokens is read before all tokens that begin like
  them. One token is enough to see where a phrase ends.
* `Opens` — some tokens are the beginning of a phrase.
* `Sticks`, `expression_sticks` — a phrase is given up behind a beginning of it, at a token with
  which it is given up whatever comes after that token.
* `sticks_of_parts`, `tailSticks_of_parts` — the argument for sums and for products, made once.
* `PointsAt` — what is claimed of the offset.
* `parse_error_points` — a syntax error points at the first token that does not fit.
-/

/-! ### When phrases are not read -/

/-- A phrase was not read: the tokens that begin where it was given up. -/
def Fails {P : List Placed → Prop}
    (answer : Except Stop (Expr × { rest : List Placed // P rest })) (rest : List Placed) : Prop :=
  ∃ fault, answer = .error ⟨fault, rest⟩

section

variable {P Q : List Placed → Prop} {e left : Expr} {s tail rest : List Placed}
  {offset : Nat} {op : BinaryOp}

@[simp] theorem not_fails_pure {h : P rest} :
    ¬ Fails (pure (e, ⟨rest, h⟩) : Except Stop (Expr × { rest : List Placed // P rest })) s := by
  rintro ⟨-, ⟨⟩⟩

/-- A failure is noticed where it is told. -/
@[simp] theorem fails_throw {stop : Stop} :
    Fails (throw stop : Except Stop (Expr × { rest : List Placed // P rest })) rest ↔
      rest = stop.rest := by
  constructor
  · rintro ⟨fault, heq⟩
    exact (congrArg Stop.rest (Except.error.inj heq)).symm
  · rintro rfl
    exact ⟨stop.fault, rfl⟩

/-- The first phrase fails, or it is read and what comes behind it fails. -/
theorem fails_bind {answer : Except Stop (Expr × { rest : List Placed // P rest })}
    {next : Expr × { rest : List Placed // P rest } →
      Except Stop (Expr × { rest : List Placed // Q rest })} :
    Fails (answer >>= next) rest ↔ Fails answer rest ∨
      ∃ first mid, ∃ h : Reads answer first mid,
        Fails (next (first, ⟨mid, h.left_over⟩)) rest := by
  cases answer with
  | error stop =>
    constructor
    · rintro ⟨fault, heq⟩
      exact .inl ⟨fault, congrArg Except.error (Except.error.inj heq)⟩
    · rintro (⟨fault, heq⟩ | ⟨_, _, hread, -⟩)
      · exact ⟨fault, congrArg Except.error (Except.error.inj heq)⟩
      · exact absurd hread not_reads_throw
  | ok answer =>
    obtain ⟨first, mid, hmid⟩ := answer
    constructor
    · exact fun hnext => .inr ⟨first, mid, reads_ok.mpr ⟨rfl, rfl⟩, hnext⟩
    · rintro (⟨_, ⟨⟩⟩ | ⟨_, _, hread, hnext⟩)
      obtain ⟨rfl, rfl⟩ := reads_ok.mp hread
      exact hnext

/-- The tree does not matter. -/
theorem fails_map {answer : Except Stop (Expr × { rest : List Placed // P rest })}
    {f : Expr → Expr} {hQ : ∀ {rest}, P rest → Q rest} :
    Fails (P := Q) (do
      let (e, ⟨rest, h⟩) ← answer
      return (f e, ⟨rest, hQ h⟩)) rest ↔ Fails answer rest := by
  rw [fails_bind]
  exact or_iff_left (by simp)

/-- A sum fails in its first term, or behind it. -/
theorem fails_expression :
    Fails (expression s) rest ↔ Fails (term s) rest ∨
      ∃ left mid, Reads (term s) left mid ∧ Fails (expressionTail left mid) rest := by
  rw [expression]
  simp [fails_bind, -bind_pure_comp]

/-- Behind an operator a term must follow, and then what continues the sum. -/
theorem fails_expressionTail_op (hop : op.isAdditive = true) :
    Fails (expressionTail left (⟨offset, .op op⟩ :: tail)) rest ↔ Fails (term tail) rest ∨
      ∃ right mid, Reads (term tail) right mid ∧
        Fails (expressionTail (.binary op left right) mid) rest := by
  rw [expressionTail, if_pos hop]
  simp [fails_bind, -bind_pure_comp]

/-- Where no operator follows, the sum has ended. -/
theorem not_fails_expressionTail (hs : StopsAt BinaryOp.isAdditive s) :
    ¬ Fails (expressionTail left s) rest := by
  obtain ⟨hrest, heq⟩ := (reads_expressionTail_stop hs).mpr ⟨rfl, rfl⟩
  rw [heq]
  exact not_fails_pure

/-- A product fails in its first power, or behind it. -/
theorem fails_term :
    Fails (term s) rest ↔ Fails (power s) rest ∨
      ∃ left mid, Reads (power s) left mid ∧ Fails (termTail left mid) rest := by
  rw [term]
  simp [fails_bind, -bind_pure_comp]

/-- Behind an operator a power must follow, and then what continues the product. -/
theorem fails_termTail_op (hop : op.isMultiplicative = true) :
    Fails (termTail left (⟨offset, .op op⟩ :: tail)) rest ↔ Fails (power tail) rest ∨
      ∃ right mid, Reads (power tail) right mid ∧
        Fails (termTail (.binary op left right) mid) rest := by
  rw [termTail, if_pos hop]
  simp [fails_bind, -bind_pure_comp]

/-- Where no operator follows, the product has ended. -/
theorem not_fails_termTail (hs : StopsAt BinaryOp.isMultiplicative s) :
    ¬ Fails (termTail left s) rest := by
  obtain ⟨hrest, heq⟩ := (reads_termTail_stop hs).mpr ⟨rfl, rfl⟩
  rw [heq]
  exact not_fails_pure

/-- A power fails in its base, or in the exponent behind the operator. -/
theorem fails_power :
    Fails (power s) rest ↔ Fails (unary s) rest ∨
      ∃ base offset tail, Reads (unary s) base (⟨offset, .op .pow⟩ :: tail) ∧
        Fails (power tail) rest := by
  rw [power, fails_bind]
  refine or_congr_right ?_
  constructor
  · rintro ⟨base, mid, hbase, hnext⟩
    dsimp only at hnext
    split at hnext
    next offset tail _ => exact ⟨base, offset, tail, hbase, fails_map.mp hnext⟩
    next => exact absurd hnext not_fails_pure
  · rintro ⟨base, offset, tail, hbase, hexponent⟩
    exact ⟨base, _, hbase, fails_map.mpr hexponent⟩

/-- Behind a sign it is the operand that fails. -/
theorem fails_unary_sign {op : UnaryOp} :
    Fails (unary (⟨offset, op.token⟩ :: tail)) rest ↔ Fails (unary tail) rest := by
  cases op <;>
  · rw [UnaryOp.token, unary]
    exact fails_map

/-- Without a sign it is a primary phrase that fails. -/
theorem fails_unary_of_ne (h : ∀ op offset, s.head? ≠ some ⟨offset, UnaryOp.token op⟩) :
    Fails (unary s) rest ↔ Fails (primary s) rest := by
  rw [unary.eq_def]
  split
  next offset tail => exact absurd rfl (h .plus offset)
  next offset tail => exact absurd rfl (h .minus offset)
  next => rfl

/-- A primary phrase fails between parentheses, where the closing one is missing, or where nothing
was read at all. -/
theorem fails_primary :
    Fails (primary s) rest ↔
      (∃ offset tail, s = ⟨offset, .openParen⟩ :: tail ∧ (Fails (expression tail) rest ∨
        (∃ e, Reads (expression tail) e rest) ∧
          ∀ offset, rest.head? ≠ some ⟨offset, .closeParen⟩)) ∨
      (rest = s ∧ (∀ offset value, s.head? ≠ some ⟨offset, .number value⟩) ∧
        ∀ offset, s.head? ≠ some ⟨offset, .openParen⟩) := by
  rw [primary.eq_def]
  split
  next offset value tail => simp
  next offset tail =>
    -- It is given up between the parentheses, or where the closing one should stand.
    rw [fails_bind]
    constructor
    · rintro (hinner | ⟨e, mid, hinner, hclose⟩)
      · exact .inl ⟨offset, tail, rfl, .inl hinner⟩
      · dsimp only at hclose
        split at hclose
        next => exact absurd hclose not_fails_pure
        next hne =>
          obtain rfl := fails_throw.mp hclose
          refine .inl ⟨offset, tail, rfl, .inr ⟨⟨e, hinner⟩, ?_⟩⟩
          intro offset' hhead
          obtain ⟨back, rfl⟩ := List.head?_eq_some_iff.mp hhead
          exact hne offset' back _ rfl .rfl
    · rintro (⟨_, _, ⟨⟩, hinner | ⟨⟨e, hinner⟩, hne⟩⟩ | ⟨-, -, hopen⟩)
      · exact .inl hinner
      · refine .inr ⟨e, rest, hinner, ?_⟩
        dsimp only
        split
        next offset' back _ => exact absurd rfl (hne offset')
        next => exact fails_throw.mpr rfl
      · exact absurd rfl (hopen offset)
  next => simp
  next hnumber hopen _ =>
    rw [fails_throw]
    constructor
    · rintro rfl
      refine .inr ⟨rfl, ?_, ?_⟩
      · intro offset value hhead
        obtain ⟨back, hs⟩ := List.head?_eq_some_iff.mp hhead
        exact hnumber offset value back hs
      · intro offset hhead
        obtain ⟨back, hs⟩ := List.head?_eq_some_iff.mp hhead
        exact hopen offset back hs
    · rintro (⟨offset, tail, hs, -⟩ | ⟨rfl, -, -⟩)
      · exact absurd hs (hopen offset tail)
      · rfl

end

/-! ### Beginnings of phrases -/

/-- Only the first token can continue a phrase. -/
theorem StopsAt.of_head {kind : BinaryOp → Bool} {s s' : List Placed} (h : StopsAt kind s)
    (hhead : s'.head? = s.head?) : StopsAt kind s' := by
  have hop : headOp? s' = headOp? s := by
    rcases s with _ | ⟨p, s⟩ <;> rcases s' with _ | ⟨p', s'⟩
    · rfl
    · exact nomatch hhead
    · exact nomatch hhead
    · obtain rfl := Option.some.inj hhead
      rcases p' with ⟨_, _ | _ | _ | _⟩ <;> rfl
  rwa [StopsAt, hop]

/-- What was read before some tokens is read before all tokens that begin like them. -/
theorem Reads.relocate (phrase : Phrase) {e : Expr} {s mid : List Placed}
    (h : Reads (readPhrase phrase s) e mid) :
    ∃ u, s = u ++ mid ∧ Derives phrase (bare u) e ∧
      ∀ mid' : List Placed, mid'.head? = mid.head? →
        Reads (readPhrase phrase (u ++ mid')) e mid' := by
  obtain ⟨⟨u, rfl, hu⟩, hends⟩ := phrase_sound h
  exact ⟨u, rfl, hu, fun mid' hhead => reads_phrase_iff.mpr ⟨hu, hends.of_head hhead⟩⟩

/-- The tokens are the beginning of a phrase. -/
def Opens (phrase : Phrase) (u : List Token) : Prop :=
  ∃ v e, Derives phrase (u ++ v) e

/-- The beginning of a tighter phrase is one of a looser phrase. -/
theorem Opens.mono {phrase phrase' : Phrase} {u : List Token} (h : Opens phrase u)
    (hmono : ∀ {v e}, Derives phrase v e → Derives phrase' v e) : Opens phrase' u := by
  obtain ⟨v, e, hv⟩ := h
  exact ⟨v, e, hmono hv⟩

/-- Reading a phrase is given up at the beginning of `rest`: what stands before it is the beginning
of a phrase, and it is given up there whatever follows the first token of `rest`. -/
def Sticks (phrase : Phrase) (s rest : List Placed) : Prop :=
  ∃ u, s = u ++ rest ∧ Opens phrase (bare u) ∧
    ∀ rest' : List Placed, rest'.head? = rest.head? → Fails (readPhrase phrase (u ++ rest')) rest'

/-- Reading what continues a phrase with the tree `left` is given up at the beginning of `rest`. -/
def TailSticks (phrase : Phrase) (read : (s : List Placed) → Tail s) (left : Expr)
    (s rest : List Placed) : Prop :=
  ∃ u, s = u ++ rest ∧ (∀ w, Derives phrase w left → Opens phrase (w ++ bare u)) ∧
    ∀ rest' : List Placed, rest'.head? = rest.head? → Fails (read (u ++ rest')) rest'

/-- Tokens that go on alike begin alike. -/
theorem head?_append_congr {s rest rest' : List Placed} (h : rest'.head? = rest.head?) :
    (s ++ rest').head? = (s ++ rest).head? := by
  rw [List.head?_append, List.head?_append, h]

/-- A phrase that begins with another one and may go on is given up in the first part of it or in
what goes on. -/
theorem sticks_of_parts {phrase part : Phrase} {tail : Expr → (s : List Placed) → Tail s}
    {s rest : List Placed} (hlift : ∀ {u e}, Derives part u e → Derives phrase u e)
    (hfails : ∀ {s rest}, Fails (readPhrase phrase s) rest ↔ Fails (readPhrase part s) rest ∨
      ∃ left mid, Reads (readPhrase part s) left mid ∧ Fails (tail left mid) rest)
    (hpart : Fails (readPhrase part s) rest → Sticks part s rest)
    (htail : ∀ left mid, Reads (readPhrase part s) left mid → Fails (tail left mid) rest →
      TailSticks phrase (tail left) left mid rest)
    (h : Fails (readPhrase phrase s) rest) : Sticks phrase s rest := by
  obtain hfirst | ⟨left, mid, hread, hrest⟩ := hfails.mp h
  · -- It sticks in the first part, which is lifted to the whole.
    obtain ⟨u, rfl, hopens, hagain⟩ := hpart hfirst
    refine ⟨u, rfl, hopens.mono hlift, ?_⟩
    intro rest' hhead
    exact hfails.mpr (.inl (hagain rest' hhead))
  · -- The first part ends before a token that does not continue it, whatever comes after that token.
    obtain ⟨v, rfl, hopens, hagain⟩ := htail left mid hread hrest
    obtain ⟨u, rfl, hu, hreads⟩ := hread.relocate part
    refine ⟨u ++ v, by simp, by simpa using hopens _ (hlift hu), ?_⟩
    intro rest' hhead
    rw [List.append_assoc]
    exact hfails.mpr
      (.inr ⟨left, v ++ rest', hreads _ (head?_append_congr hhead), hagain rest' hhead⟩)

/-- What goes on with an operator is given up in the operand behind it or in what comes then. -/
theorem tailSticks_of_parts {phrase part : Phrase} {kind : BinaryOp → Bool}
    {tail : Expr → (s : List Placed) → Tail s} {left : Expr} {s rest : List Placed} {offset : Nat}
    {op : BinaryOp} (hop : kind op = true)
    (hjoin : ∀ {op u v left right}, kind op = true → Derives phrase u left → Derives part v right →
      Derives phrase (u ++ .op op :: v) (.binary op left right))
    (hfails : ∀ {left offset op s rest}, kind op = true →
      (Fails (tail left (⟨offset, .op op⟩ :: s)) rest ↔ Fails (readPhrase part s) rest ∨
        ∃ right mid, Reads (readPhrase part s) right mid ∧
          Fails (tail (.binary op left right) mid) rest))
    (hpart : Fails (readPhrase part s) rest → Sticks part s rest)
    (htail : ∀ right mid, Reads (readPhrase part s) right mid →
      Fails (tail (.binary op left right) mid) rest →
      TailSticks phrase (tail (.binary op left right)) (.binary op left right) mid rest)
    (h : Fails (tail left (⟨offset, .op op⟩ :: s)) rest) :
    TailSticks phrase (tail left) left (⟨offset, .op op⟩ :: s) rest := by
  obtain hfirst | ⟨right, mid, hread, hrest⟩ := (hfails hop).mp h
  · -- The operand is given up: completed, it would join what was read.
    obtain ⟨u, rfl, ⟨v, right, hright⟩, hagain⟩ := hpart hfirst
    refine ⟨⟨offset, .op op⟩ :: u, rfl, ?_, ?_⟩
    · intro w hw
      exact ⟨v, _, by simpa using hjoin hop hw hright⟩
    · intro rest' hhead
      exact (hfails hop).mpr (.inl (hagain rest' hhead))
  · obtain ⟨v, rfl, hopens, hagain⟩ := htail right mid hread hrest
    obtain ⟨u, rfl, hu, hreads⟩ := hread.relocate part
    refine ⟨⟨offset, .op op⟩ :: (u ++ v), by simp, ?_, ?_⟩
    · intro w hw
      simpa using hopens _ (hjoin hop hw hu)
    · intro rest' hhead
      rw [List.cons_append, List.append_assoc]
      exact (hfails hop).mpr
        (.inr ⟨right, v ++ rest', hreads _ (head?_append_congr hhead), hagain rest' hhead⟩)

mutual

theorem expression_sticks {s rest : List Placed} (h : Fails (expression s) rest) :
    Sticks .expression s rest := by
  refine sticks_of_parts .ofTerm fails_expression term_sticks ?_ h
  intro left mid hread hrest
  have hmid : mid.length < s.length := hread.left_over
  exact expressionTail_sticks hrest
termination_by (s.length, 6)

theorem expressionTail_sticks {left : Expr} {s rest : List Placed}
    (h : Fails (expressionTail left s) rest) :
    TailSticks .expression (expressionTail left) left s rest := by
  rcases head_cases BinaryOp.isAdditive s with ⟨offset, op, tail, hs, hop⟩ | hstop
  · have htail : tail.length < s.length := by simp [hs]
    rw [hs] at h ⊢
    refine tailSticks_of_parts hop (fun hop => .sum ((BinaryOp.isAdditive_iff _).mp hop))
      fails_expressionTail_op term_sticks ?_ h
    intro right mid hread hrest
    have hmid : mid.length < tail.length := hread.left_over
    exact expressionTail_sticks hrest
  · exact absurd h (not_fails_expressionTail hstop)
termination_by (s.length, 5)

theorem term_sticks {s rest : List Placed} (h : Fails (term s) rest) : Sticks .term s rest := by
  refine sticks_of_parts .ofPower fails_term power_sticks ?_ h
  intro left mid hread hrest
  have hmid : mid.length < s.length := hread.left_over
  exact termTail_sticks hrest
termination_by (s.length, 4)

theorem termTail_sticks {left : Expr} {s rest : List Placed}
    (h : Fails (termTail left s) rest) : TailSticks .term (termTail left) left s rest := by
  rcases head_cases BinaryOp.isMultiplicative s with ⟨offset, op, tail, hs, hop⟩ | hstop
  · have htail : tail.length < s.length := by simp [hs]
    rw [hs] at h ⊢
    refine tailSticks_of_parts hop (fun hop => .product ((BinaryOp.isMultiplicative_iff _).mp hop))
      fails_termTail_op power_sticks ?_ h
    intro right mid hread hrest
    have hmid : mid.length < tail.length := hread.left_over
    exact termTail_sticks hrest
  · exact absurd h (not_fails_termTail hstop)
termination_by (s.length, 3)

theorem power_sticks {s rest : List Placed} (h : Fails (power s) rest) : Sticks .power s rest := by
  obtain hbase | ⟨base, offset, tail, hbase, hexponent⟩ := fails_power.mp h
  · obtain ⟨u, rfl, hopens, hfails⟩ := unary_sticks hbase
    refine ⟨u, rfl, hopens.mono .ofUnary, ?_⟩
    intro rest' hhead
    exact fails_power.mpr (.inl (hfails rest' hhead))
  · -- The exponent stands behind the base and the operator, so its tokens are fewer.
    have htail : tail.length + 1 < s.length := hbase.left_over
    obtain ⟨v, rfl, ⟨w, exponent, hw⟩, hfails⟩ := power_sticks hexponent
    obtain ⟨u, rfl, hu, hreads⟩ := Reads.relocate .unary hbase
    refine ⟨u ++ ⟨offset, .op .pow⟩ :: v, by simp, ⟨w, _, by simpa using Derives.power hu hw⟩, ?_⟩
    intro rest' hhead
    rw [List.append_assoc, List.cons_append]
    exact fails_power.mpr (.inr ⟨base, offset, v ++ rest', hreads _ rfl, hfails rest' hhead⟩)
termination_by (s.length, 2)

theorem unary_sticks {s rest : List Placed} (h : Fails (unary s) rest) : Sticks .unary s rest := by
  by_cases hsign : ∃ op offset, s.head? = some ⟨offset, UnaryOp.token op⟩
  · obtain ⟨op, offset, hhead⟩ := hsign
    obtain ⟨tail, rfl⟩ := List.head?_eq_some_iff.mp hhead
    obtain ⟨u, rfl, ⟨v, operand, hv⟩, hfails⟩ := unary_sticks (fails_unary_sign.mp h)
    refine ⟨⟨offset, op.token⟩ :: u, rfl, ⟨v, _, .signed op hv⟩, ?_⟩
    intro rest' hhead
    exact fails_unary_sign.mpr (hfails rest' hhead)
  · have hne : ∀ op offset, s.head? ≠ some ⟨offset, UnaryOp.token op⟩ :=
      fun op offset hhead => hsign ⟨op, offset, hhead⟩
    obtain ⟨u, rfl, hopens, hfails⟩ := primary_sticks ((fails_unary_of_ne hne).mp h)
    refine ⟨u, rfl, hopens.mono .ofPrimary, ?_⟩
    intro rest' hhead
    rw [← head?_append_congr hhead] at hne
    exact (fails_unary_of_ne hne).mpr (hfails rest' hhead)
termination_by (s.length, 1)

theorem primary_sticks {s rest : List Placed} (h : Fails (primary s) rest) :
    Sticks .primary s rest := by
  obtain ⟨offset, tail, rfl, hinner | ⟨⟨e, hinner⟩, hclose⟩⟩ | ⟨rfl, hnumber, hopen⟩ :=
    fails_primary.mp h
  · obtain ⟨u, rfl, ⟨v, e, hv⟩, hfails⟩ := expression_sticks hinner
    refine ⟨⟨offset, .openParen⟩ :: u, rfl, ⟨v ++ [.closeParen], e, by simpa using hv.parens⟩, ?_⟩
    intro rest' hhead
    exact fails_primary.mpr (.inl ⟨offset, u ++ rest', rfl, .inl (hfails rest' hhead)⟩)
  · -- The expression was read, and is closed by nothing else than a parenthesis.
    obtain ⟨u, rfl, hu, hreads⟩ := Reads.relocate .expression hinner
    refine ⟨⟨offset, .openParen⟩ :: u, rfl, ⟨[.closeParen], e, hu.parens⟩, ?_⟩
    intro rest' hhead
    rw [← hhead] at hclose
    exact fails_primary.mpr (.inl ⟨offset, u ++ rest', rfl, .inr ⟨⟨e, hreads rest' hhead⟩, hclose⟩⟩)
  · -- Anything may come where nothing was read, say a number.
    refine ⟨[], rfl, ⟨[.number 0], _, .number 0⟩, ?_⟩
    intro rest' hhead
    rw [← hhead] at hnumber hopen
    exact fails_primary.mpr (.inr ⟨rfl, hnumber, hopen⟩)
termination_by (s.length, 0)

end

/-! ### Main theorem -/

/-- The offset points at the first of some tokens that cannot belong to an expression: the `k` tokens
before it are the beginning of one, and with it they are not. If all tokens are the beginning of an
expression, it points behind the start of the last. -/
structure PointsAt (tokens : List Placed) (offset k : Nat) : Prop where
  le_length : k ≤ tokens.length
  opens : Opens .expression (bare (tokens.take k))
  /-- The token that the offset points at does not fit. -/
  misfit : ∀ h : k < tokens.length,
    ¬ Opens .expression (bare (tokens.take (k + 1))) ∧ offset = tokens[k].offset
  /-- Behind all tokens, it is one past the start of the last, or zero if there are none. -/
  behind : k = tokens.length → offset = tokens.getLast?.elim 0 (·.offset + 1)

/-- Reading does not come to the end of any tokens that begin like `rest`. -/
theorem pointsAt {u rest : List Placed} (hopens : Opens .expression (bare u))
    (hnever : ∀ rest' : List Placed, rest' ≠ [] → rest'.head? = rest.head? →
      ∀ e, ¬ Reads (expression (u ++ rest')) e []) :
    PointsAt (u ++ rest) (stopOffset (u ++ rest) rest) u.length where
  le_length := by simp
  opens := by simpa using hopens
  misfit := by
    intro h
    obtain ⟨p, back, rfl⟩ : ∃ p back, rest = p :: back := by
      refine List.exists_cons_of_ne_nil ?_
      rintro rfl
      simp at h
    refine ⟨?_, by simp [stopOffset]⟩
    rw [List.append_cons, List.take_left' (by simp)]
    rintro ⟨v, e, hv⟩
    -- It does not matter where the tokens of the continuation stand.
    have hread : Reads (readPhrase .expression (u ++ p :: v.map (⟨0, ·⟩))) e [] :=
      reads_whole_iff.mpr (by simpa [bare, Function.comp_def] using hv)
    exact hnever (p :: v.map (⟨0, ·⟩)) (List.cons_ne_nil _ _) rfl e hread
  behind := by
    intro h
    obtain rfl : rest = [] := by simpa using h
    rw [stopOffset]
    cases (u ++ []).getLast? <;> rfl

/-- Tokens that are no expression are refused at the first that does not fit. -/
theorem parseTokens_error_points {tokens : List Placed} (h : ∀ e, parseTokens tokens ≠ .ok e) :
    ∃ offset fault k, parseTokens tokens = .error (.malformed offset fault) ∧
      PointsAt tokens offset k := by
  unfold parseTokens at h ⊢
  split
  next stop hstop =>
    -- No expression was read.
    obtain ⟨u, rfl, hopens, hfails⟩ := expression_sticks ⟨stop.fault, hstop⟩
    refine ⟨_, _, u.length, rfl, pointsAt hopens ?_⟩
    rintro rest' - hhead e ⟨_, hok⟩
    obtain ⟨fault, herror⟩ := hfails rest' hhead
    exact nomatch hok.symm.trans herror
  next e _ hok =>
    rw [hok] at h
    exact absurd rfl (h e)
  next e rest hlength hne hok =>
    -- One was read, and tokens are left over.
    obtain ⟨u, rfl, hu, hreads⟩ := Reads.relocate .expression ⟨hlength, hok⟩
    refine ⟨_, _, u.length, rfl, pointsAt ⟨[], e, by simpa using hu⟩ ?_⟩
    intro rest' hne' hhead e' hwhole
    exact hne' ((hreads rest' hhead).unique hwhole).2

/-- **A syntax error points at the first token that does not fit.** Of a text that has tokens but is
no expression, the tokens before the reported offset are the beginning of an expression, and with the
token that stands there they are not. -/
theorem parse_error_points {s : List Char} {tokens : List Placed} (htokens : tokenize s = .ok tokens)
    (hparse : ∀ e, parse s ≠ .ok e) :
    Spelled 0 s tokens ∧ ∃ offset fault k, parse s = .error (.malformed offset fault) ∧
      PointsAt tokens offset k := by
  have hread : parse s = parseTokens tokens := by
    rw [parse, htokens]
    rfl
  rw [hread] at hparse ⊢
  exact ⟨tokenize_spelled htokens, parseTokens_error_points hparse⟩

/-- A number stands behind an expression that is complete. -/
theorem parse_error_points_number : ∃ tokens, tokenize "2 * (3) 4".toList = .ok tokens ∧
    (∀ e, parse "2 * (3) 4".toList ≠ .ok e) ∧ Spelled 0 "2 * (3) 4".toList tokens ∧
    ∃ offset fault k, parse "2 * (3) 4".toList = .error (.malformed offset fault) ∧
      PointsAt tokens offset k := by
  have hnumbers : (Decimal.readUnsigned? false ['2']).isSome ∧
      (Decimal.readUnsigned? false ['3']).isSome ∧
      (Decimal.readUnsigned? false ['4']).isSome := by decide +kernel
  have hdigits : ['2', '3', '4'].all (fun c => isNumeric c && !Text.isBlank c) = true := by decide
  have hsymbols : ['*', '(', ')'].all (fun c => !isNumeric c && !Text.isBlank c) = true := by decide
  have hblank : isNumeric ' ' = false ∧ Text.isBlank ' ' = true := by decide
  simp only [Option.isSome_iff_exists] at hnumbers
  simp only [List.all_cons, List.all_nil, Bool.and_eq_true, Bool.not_eq_true'] at hdigits hsymbols
  obtain ⟨⟨x, hx⟩, ⟨y, hy⟩, z, hz⟩ := hnumbers
  have htokens : tokenize "2 * (3) 4".toList = .ok [⟨0, .number x⟩, ⟨2, .op .mul⟩,
      ⟨4, .openParen⟩, ⟨5, .number y⟩, ⟨6, .closeParen⟩, ⟨8, .number z⟩] := by
    simp [tokenize, tokenizeFrom, hdigits, hsymbols, hblank, hx, hy, hz, symbol?, bind,
      Except.bind, pure, Except.pure]
  have herror : parse "2 * (3) 4".toList = .error (.malformed 8 .trailingInput) := by
    rw [parse, htokens]
    cbv
  have hparse : ∀ e, parse "2 * (3) 4".toList ≠ .ok e := by
    rw [herror]
    simp
  exact ⟨_, htokens, hparse, parse_error_points htokens hparse⟩

end Launcher.Arith
