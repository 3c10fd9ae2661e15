import Launcher.Arith.Token

namespace Launcher.Arith

/-!
# Reading expressions

* `expression`, `term`, `power`, `unary`, `primary` — one function for each kind of phrase; each
  answers with the tree and the tokens that it has left over.
* `parse` — the tree of a whole text.
* `evaluate` — its value.

From loosest to tightest bind `+ -`, then `* / %`, then `^`, which groups to the right, then the
signs. An exponent is a power of its own, so it may carry a sign.
-/

/-- A fault and the tokens that begin where it was met. -/
structure Stop where
  fault : SyntaxFault
  rest : List Placed

/-- A tree and fewer tokens than there were. -/
abbrev Step (s : List Placed) : Type :=
  Except Stop (Expr × { rest : List Placed // rest.length < s.length })

/-- A tree and no more tokens than there were. -/
abbrev Tail (s : List Placed) : Type :=
  Except Stop (Expr × { rest : List Placed // rest.length ≤ s.length })

/-- The operations of an expression. -/
def BinaryOp.isAdditive : BinaryOp → Bool
  | .add | .sub => true
  | _ => false

/-- The operations of a term. -/
def BinaryOp.isMultiplicative : BinaryOp → Bool
  | .mul | .div | .rem => true
  | _ => false

mutual

/-- A sum: terms joined by `+` and `-`, grouped to the left. -/
def expression (s : List Placed) : Step s := do
  let (left, ⟨rest, h⟩) ← term s
  let (e, ⟨rest', h'⟩) ← expressionTail left rest
  return (e, ⟨rest', Nat.lt_of_le_of_lt h' h⟩)
termination_by (s.length, 6)

/-- The further terms of a sum that begins with `left`. -/
def expressionTail (left : Expr) (s : List Placed) : Tail s :=
  match s with
  | ⟨_, .op op⟩ :: s =>
    if op.isAdditive then do
      let (right, ⟨rest, h⟩) ← term s
      let (e, ⟨rest', h'⟩) ← expressionTail (.binary op left right) rest
      return (e, ⟨rest', by simp only [List.length_cons]; omega⟩)
    else return (left, ⟨_, Nat.le_refl _⟩)
  | s => return (left, ⟨s, Nat.le_refl _⟩)
termination_by (s.length, 5)

/-- A product: powers joined by `*`, `/` and `%`, grouped to the left. -/
def term (s : List Placed) : Step s := do
  let (left, ⟨rest, h⟩) ← power s
  let (e, ⟨rest', h'⟩) ← termTail left rest
  return (e, ⟨rest', Nat.lt_of_le_of_lt h' h⟩)
termination_by (s.length, 4)

/-- The further powers of a product that begins with `left`. -/
def termTail (left : Expr) (s : List Placed) : Tail s :=
  match s with
  | ⟨_, .op op⟩ :: s =>
    if op.isMultiplicative then do
      let (right, ⟨rest, h⟩) ← power s
      let (e, ⟨rest', h'⟩) ← termTail (.binary op left right) rest
      return (e, ⟨rest', by simp only [List.length_cons]; omega⟩)
    else return (left, ⟨_, Nat.le_refl _⟩)
  | s => return (left, ⟨s, Nat.le_refl _⟩)
termination_by (s.length, 3)

/-- A signed operand, or one raised to a power. -/
def power (s : List Placed) : Step s := do
  let (base, ⟨rest, h⟩) ← unary s
  match rest, h with
  | ⟨_, .op .pow⟩ :: rest, h => do
    have shorter : rest.length < s.length := Nat.lt_trans (Nat.lt_succ_self _) h
    let (exponent, ⟨rest', h'⟩) ← power rest
    return (.binary .pow base exponent, ⟨rest', Nat.lt_trans h' shorter⟩)
  | rest, h => return (base, ⟨rest, h⟩)
termination_by (s.length, 2)

/-- An operand with any number of signs. -/
def unary (s : List Placed) : Step s :=
  match s with
  | ⟨_, .op .add⟩ :: s => do
    let (e, ⟨rest, h⟩) ← unary s
    return (.unary .plus e, ⟨rest, Nat.lt_succ_of_lt h⟩)
  | ⟨_, .op .sub⟩ :: s => do
    let (e, ⟨rest, h⟩) ← unary s
    return (.unary .minus e, ⟨rest, Nat.lt_succ_of_lt h⟩)
  | s => primary s
termination_by (s.length, 1)

/-- A number, or an expression in parentheses. -/
def primary (s : List Placed) : Step s :=
  match s with
  | ⟨_, .number value⟩ :: s => return (.number value, ⟨s, Nat.lt_succ_self _⟩)
  | ⟨_, .openParen⟩ :: s => do
    let (e, ⟨rest, h⟩) ← expression s
    match rest, h with
    | ⟨_, .closeParen⟩ :: rest, h =>
      return (e, ⟨rest, by simp only [List.length_cons] at h ⊢; omega⟩)
    | rest, _ => throw ⟨.expectedClose, rest⟩
  | [] => throw ⟨.endOfExpression, []⟩
  | s => throw ⟨.expectedOperand, s⟩
termination_by (s.length, 0)

end

/-! ### Whole texts -/

/-- The offset of the first token left over, or one past the start of the last token. -/
def stopOffset (tokens rest : List Placed) : Nat :=
  match rest with
  | token :: _ => token.offset
  | [] => (tokens.getLast?.map (·.offset + 1)).getD 0

/-- The tree of a list of tokens, all of which belong to it. -/
def parseTokens (tokens : List Placed) : Except Fault Expr :=
  match expression tokens with
  | .error stop => .error (.malformed (stopOffset tokens stop.rest) stop.fault)
  | .ok (e, ⟨[], _⟩) => .ok e
  | .ok (_, ⟨rest, _⟩) => .error (.malformed (stopOffset tokens rest) .trailingInput)

/-- The tree of a text. -/
def parse (s : List Char) : Except Fault Expr := do
  parseTokens (← tokenize s)

/-- The value of a text, if it is finite. -/
def evaluate (s : List Char) : Except Fault Float := do
  (← parse s).value

end Launcher.Arith
