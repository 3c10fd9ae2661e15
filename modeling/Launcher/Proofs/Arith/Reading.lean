import Launcher.Arith.Parser

namespace Launcher.Arith

/-!
# What each phrase reads

The functions that read phrases answer with a tree and the tokens that are left over, together with
a proof that these are fewer, which is why they terminate. The proofs in the answers are in the way
when answers are compared. So `Reads` forgets them, and each function has one lemma that says what
it reads in terms of the parts of its phrase. Nothing later opens the functions.

* `Reads` — a phrase was read: its tree and the tokens that are left over.
* `Reads.left_over` — the proof is still there, for termination.
* `reads_bind`, `reads_map` — what is read one after the other.
* `StopsAt` — the tokens that follow do not begin with an operator of some kind, so that a phrase
  that would be continued by one ends before them; `head_cases` says that there is such an operator
  or none.
* `reads_expression`, `reads_term`, `reads_power`, `reads_unary`, `reads_primary` — when each
  function reads its phrase, by the parts of which the phrase consists. The loops for sums and
  products have two lemmas each: at an operator, and where there is none.
-/

/-- An answer is a tree and the tokens that are left over. -/
def Reads {P : List Placed → Prop}
    (answer : Except Stop (Expr × { rest : List Placed // P rest })) (e : Expr)
    (rest : List Placed) : Prop :=
  ∃ h : P rest, answer = .ok (e, ⟨rest, h⟩)

/-- The operator with which tokens begin. -/
def headOp? : List Placed → Option BinaryOp
  | ⟨_, .op op⟩ :: _ => some op
  | _ => none

/-- Tokens do not begin with an operator of a kind. -/
def StopsAt (kind : BinaryOp → Bool) (s : List Placed) : Prop :=
  ∀ op, headOp? s = some op → kind op = false

/-- The sign as a token. -/
def UnaryOp.token : UnaryOp → Token
  | .plus => .op .add
  | .minus => .op .sub

/-- The operators of sums. -/
theorem BinaryOp.isAdditive_iff (op : BinaryOp) : op.isAdditive = true ↔ op = .add ∨ op = .sub := by
  cases op <;> simp [isAdditive]

/-- The operators of products. -/
theorem BinaryOp.isMultiplicative_iff (op : BinaryOp) :
    op.isMultiplicative = true ↔ op = .mul ∨ op = .div ∨ op = .rem := by
  cases op <;> simp [isMultiplicative]

/-- A sign is told by its token. -/
theorem UnaryOp.token_inj {op op' : UnaryOp} (h : op.token = op'.token) : op = op' := by
  cases op <;> cases op' <;> simp_all [UnaryOp.token]

section

variable {P Q : List Placed → Prop} {e e' left : Expr} {s tail rest rest' : List Placed}
  {offset : Nat} {op : BinaryOp} {kind : BinaryOp → Bool}

/-! ### Heads -/

@[simp] theorem stopsAt_nil : StopsAt kind [] := by
  simp [StopsAt, headOp?]

@[simp] theorem stopsAt_closeParen : StopsAt kind (⟨offset, .closeParen⟩ :: tail) := by
  simp [StopsAt, headOp?]

@[simp] theorem stopsAt_op : StopsAt kind (⟨offset, .op op⟩ :: tail) ↔ kind op = false := by
  simp [StopsAt, headOp?]

/-- Tokens begin with an operator of a kind, or they do not. -/
theorem head_cases (kind : BinaryOp → Bool) (s : List Placed) :
    (∃ offset op tail, s = ⟨offset, .op op⟩ :: tail ∧ kind op = true) ∨ StopsAt kind s := by
  rcases s with _ | ⟨⟨offset, token⟩, tail⟩
  · exact .inr stopsAt_nil
  · cases token with
    | op op =>
      cases hop : kind op with
      | true => exact .inl ⟨offset, op, tail, rfl, hop⟩
      | false => exact .inr (stopsAt_op.mpr hop)
    | number | openParen | closeParen =>
      refine .inr ?_
      rintro op ⟨⟩

/-! ### Answers -/

/-- The tokens that are left over are fewer. -/
theorem Reads.left_over {answer : Except Stop (Expr × { rest : List Placed // P rest })}
    (h : Reads answer e rest) : P rest := by
  obtain ⟨hrest, -⟩ := h
  exact hrest

/-- There is one answer. -/
theorem Reads.unique {answer : Except Stop (Expr × { rest : List Placed // P rest })}
    (h : Reads answer e rest) (h' : Reads answer e' rest') : e = e' ∧ rest = rest' := by
  obtain ⟨hrest, rfl⟩ := h
  obtain ⟨hrest', heq⟩ := h'
  simp only [Except.ok.injEq, Prod.mk.injEq, Subtype.mk.injEq] at heq
  exact heq

/-- An answer is what it says. -/
@[simp] theorem reads_ok {h : P rest} :
    Reads (.ok (e, ⟨rest, h⟩) : Except Stop (Expr × { rest : List Placed // P rest })) e' rest' ↔
      e' = e ∧ rest' = rest := by
  constructor
  · rintro ⟨h', heq⟩
    simp only [Except.ok.injEq, Prod.mk.injEq, Subtype.mk.injEq] at heq
    exact ⟨heq.1.symm, heq.2.symm⟩
  · rintro ⟨rfl, rfl⟩
    exact ⟨h, rfl⟩

@[simp] theorem reads_pure {h : P rest} :
    Reads (pure (e, ⟨rest, h⟩) : Except Stop (Expr × { rest : List Placed // P rest })) e' rest' ↔
      e' = e ∧ rest' = rest :=
  reads_ok

/-- Nothing is read where reading is given up. -/
@[simp] theorem not_reads_throw {stop : Stop} :
    ¬ Reads (throw stop : Except Stop (Expr × { rest : List Placed // P rest })) e rest := by
  rintro ⟨-, ⟨⟩⟩

/-- What is read after a first phrase. -/
theorem reads_bind {answer : Except Stop (Expr × { rest : List Placed // P rest })}
    {next : Expr × { rest : List Placed // P rest } →
      Except Stop (Expr × { rest : List Placed // Q rest })} :
    Reads (answer >>= next) e rest ↔
      ∃ first mid, ∃ h : Reads answer first mid,
        Reads (next (first, ⟨mid, h.left_over⟩)) e rest := by
  constructor
  · cases answer with
    | error stop => exact fun hnext => absurd hnext not_reads_throw
    | ok answer =>
      obtain ⟨first, mid, hmid⟩ := answer
      exact fun hnext => ⟨first, mid, reads_ok.mpr ⟨rfl, rfl⟩, hnext⟩
  · rintro ⟨first, mid, ⟨hmid, rfl⟩, hnext⟩
    exact hnext

/-- What is read when the tree of a phrase is put into another one. -/
theorem reads_map {answer : Except Stop (Expr × { rest : List Placed // P rest })}
    {f : Expr → Expr} {hQ : ∀ {rest}, P rest → Q rest} :
    Reads (P := Q) (do
      let (e, ⟨rest, h⟩) ← answer
      return (f e, ⟨rest, hQ h⟩)) e rest ↔
    ∃ inner, Reads answer inner rest ∧ e = f inner := by
  rw [reads_bind]
  constructor
  · rintro ⟨inner, mid, hinner, hpure⟩
    obtain ⟨rfl, rfl⟩ := reads_pure.mp hpure
    exact ⟨inner, hinner, rfl⟩
  · rintro ⟨inner, hinner, rfl⟩
    exact ⟨inner, rest, hinner, reads_pure.mpr ⟨rfl, rfl⟩⟩

/-! ### Sums -/

/-- A sum is a term, and what continues it. -/
theorem reads_expression :
    Reads (expression s) e rest ↔
      ∃ left mid, Reads (term s) left mid ∧ Reads (expressionTail left mid) e rest := by
  rw [expression]
  simp [reads_bind, -bind_pure_comp]

/-- Behind an operator a term is read, and the sum goes on from the new tree. -/
theorem reads_expressionTail_op (hop : op.isAdditive = true) :
    Reads (expressionTail left (⟨offset, .op op⟩ :: tail)) e rest ↔
      ∃ right mid, Reads (term tail) right mid ∧
        Reads (expressionTail (.binary op left right) mid) e rest := by
  rw [expressionTail, if_pos hop]
  simp [reads_bind, -bind_pure_comp]

/-- Where no operator follows, the sum is what it was. -/
theorem reads_expressionTail_stop (hs : StopsAt BinaryOp.isAdditive s) :
    Reads (expressionTail left s) e rest ↔ e = left ∧ rest = s := by
  rw [expressionTail.eq_def]
  split
  next offset op tail =>
    rw [if_neg (Bool.eq_false_iff.mp (stopsAt_op.mp hs))]
    exact reads_pure
  next => exact reads_pure

/-! ### Products -/

/-- A product is a power, and what continues it. -/
theorem reads_term :
    Reads (term s) e rest ↔
      ∃ left mid, Reads (power s) left mid ∧ Reads (termTail left mid) e rest := by
  rw [term]
  simp [reads_bind, -bind_pure_comp]

/-- Behind an operator a power is read, and the product goes on from the new tree. -/
theorem reads_termTail_op (hop : op.isMultiplicative = true) :
    Reads (termTail left (⟨offset, .op op⟩ :: tail)) e rest ↔
      ∃ right mid, Reads (power tail) right mid ∧
        Reads (termTail (.binary op left right) mid) e rest := by
  rw [termTail, if_pos hop]
  simp [reads_bind, -bind_pure_comp]

/-- Where no operator follows, the product is what it was. -/
theorem reads_termTail_stop (hs : StopsAt BinaryOp.isMultiplicative s) :
    Reads (termTail left s) e rest ↔ e = left ∧ rest = s := by
  rw [termTail.eq_def]
  split
  next offset op tail =>
    rw [if_neg (Bool.eq_false_iff.mp (stopsAt_op.mp hs))]
    exact reads_pure
  next => exact reads_pure

/-! ### Powers, signs and operands -/

/-- A power is a base with an exponent behind the operator, or the base alone. -/
theorem reads_power :
    Reads (power s) e rest ↔ ∃ base mid, Reads (unary s) base mid ∧
      ((∃ offset tail exponent, mid = ⟨offset, .op .pow⟩ :: tail ∧
          Reads (power tail) exponent rest ∧ e = .binary .pow base exponent) ∨
        (StopsAt (· == .pow) mid ∧ e = base ∧ rest = mid)) := by
  rw [power, reads_bind]
  refine exists_congr fun base => exists_congr fun mid => ?_
  rw [← exists_prop]
  refine exists_congr fun hbase => ?_
  rcases head_cases (· == .pow) mid with ⟨offset, op, tail, rfl, hop⟩ | hstop
  · obtain rfl : op = .pow := by simpa using hop
    refine reads_map.trans ?_
    constructor
    · rintro ⟨exponent, hexponent, rfl⟩
      exact .inl ⟨offset, tail, exponent, rfl, hexponent, rfl⟩
    · rintro (⟨_, _, exponent, ⟨⟩, hexponent, rfl⟩ | ⟨hstop, -⟩)
      · exact ⟨exponent, hexponent, rfl⟩
      · simp at hstop
  · have hne : ∀ offset tail, mid ≠ ⟨offset, .op .pow⟩ :: tail := by
      rintro offset tail rfl
      simp at hstop
    dsimp only
    split
    next offset tail _ => exact absurd rfl (hne offset tail)
    next => simp [hstop, hne]

/-- A primary phrase is a number, or an expression between parentheses. -/
theorem reads_primary :
    Reads (primary s) e rest ↔
      (∃ offset value, s = ⟨offset, .number value⟩ :: rest ∧ e = .number value) ∨
      (∃ offset tail offset', s = ⟨offset, .openParen⟩ :: tail ∧
        Reads (expression tail) e (⟨offset', .closeParen⟩ :: rest)) := by
  rw [primary.eq_def]
  split
  next offset value tail =>
    rw [reads_pure]
    constructor
    · rintro ⟨rfl, rfl⟩
      exact .inl ⟨offset, value, rfl, rfl⟩
    · rintro (⟨_, _, ⟨⟩, rfl⟩ | ⟨_, _, _, ⟨⟩, -⟩)
      exact ⟨rfl, rfl⟩
  next offset tail =>
    rw [reads_bind]
    constructor
    · rintro ⟨inner, mid, hinner, hclose⟩
      dsimp only at hclose
      split at hclose
      next offset' rest' _ =>
        obtain ⟨rfl, rfl⟩ := reads_pure.mp hclose
        exact .inr ⟨offset, tail, offset', rfl, hinner⟩
      next => exact absurd hclose not_reads_throw
    · rintro (⟨_, _, ⟨⟩, -⟩ | ⟨_, _, offset', ⟨⟩, hinner⟩)
      exact ⟨e, _, hinner, reads_pure.mpr ⟨rfl, rfl⟩⟩
  next => simp
  next hnumber hopen _ =>
    refine iff_of_false not_reads_throw ?_
    rintro (⟨offset, value, hs, -⟩ | ⟨offset, tail, _, hs, -⟩)
    · exact hnumber _ _ _ hs
    · exact hopen _ _ hs

/-- Behind a sign there is an operand. -/
theorem reads_unary_sign {op : UnaryOp} :
    Reads (unary (⟨offset, op.token⟩ :: tail)) e rest ↔
      ∃ operand, Reads (unary tail) operand rest ∧ e = .unary op operand := by
  cases op <;>
  · rw [UnaryOp.token, unary]
    exact reads_map

/-- A signed phrase begins with a sign, or is a primary phrase. -/
theorem reads_unary :
    Reads (unary s) e rest ↔
      (∃ op offset tail operand, s = ⟨offset, UnaryOp.token op⟩ :: tail ∧
        Reads (unary tail) operand rest ∧ e = .unary op operand) ∨
      Reads (primary s) e rest := by
  by_cases hsign : ∃ op offset tail, s = ⟨offset, UnaryOp.token op⟩ :: tail
  · obtain ⟨op, offset, tail, rfl⟩ := hsign
    -- No primary phrase begins with a sign.
    have hprimary : ¬ Reads (primary (⟨offset, op.token⟩ :: tail)) e rest := by
      cases op <;> simp [reads_primary, UnaryOp.token]
    rw [reads_unary_sign, or_iff_left hprimary]
    constructor
    · rintro ⟨operand, hoperand, rfl⟩
      exact ⟨op, offset, tail, operand, rfl, hoperand, rfl⟩
    · rintro ⟨op', _, _, operand, hs, hoperand, rfl⟩
      obtain ⟨hhead, rfl⟩ := List.cons.inj hs
      obtain rfl : op = op' := UnaryOp.token_inj (Placed.mk.inj hhead).2
      exact ⟨operand, hoperand, rfl⟩
  · rw [unary.eq_def]
    split
    next offset tail => exact absurd ⟨.plus, offset, tail, rfl⟩ hsign
    next offset tail => exact absurd ⟨.minus, offset, tail, rfl⟩ hsign
    next =>
      refine (or_iff_right ?_).symm
      rintro ⟨op, offset, tail, _, hs, -⟩
      exact hsign ⟨op, offset, tail, hs⟩

end

end Launcher.Arith
