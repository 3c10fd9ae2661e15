import Launcher.Decimal.Binary64
import Launcher.Decimal.Shortest

namespace Launcher.Arith

/-!
# Arithmetic expressions and their values

* `Expr` — numbers, two signs and six binary operations.
* `Expr.eval` — the value of an expression in doubles, left operand first.
* `Fault`, `Fault.message` — why a text has no value, and how that is worded.
* `value` — the value of an expression, which has to be finite.
-/

/-- The binary operations. -/
inductive BinaryOp where
  | add
  | sub
  | mul
  | div
  | rem
  | pow
deriving Repr, DecidableEq

/-- The signs. -/
inductive UnaryOp where
  | plus
  | minus
deriving Repr, DecidableEq

/-- An arithmetic expression. -/
inductive Expr where
  | number (value : Float)
  | unary (op : UnaryOp) (operand : Expr)
  | binary (op : BinaryOp) (left right : Expr)
deriving Repr

/-! ### Faults -/

/-- What is wrong with the text of an expression. -/
inductive SyntaxFault where
  | invalidNumber (literal : String)
  | unexpectedCharacter (c : Char)
  | trailingInput
  | expectedClose
  | expectedOperand
  | endOfExpression
deriving Repr, DecidableEq

/-- Why an operation has no value. -/
inductive DomainFault where
  | notFinite
  | fractionalPower (base exponent : Float)
deriving Repr

/-- Why a text has no value. -/
inductive Fault where
  | malformed (offset : Nat) (fault : SyntaxFault)
  | divisionByZero
  | domain (fault : DomainFault)
deriving Repr

/-- The wording of a fault in the text. -/
def SyntaxFault.message : SyntaxFault → String
  | .invalidNumber literal => s!"invalid number '{literal}'"
  | .unexpectedCharacter c => s!"unexpected character '{c}'"
  | .trailingInput => "unexpected trailing input"
  | .expectedClose => "expected ')'"
  | .expectedOperand => "expected a number or '('"
  | .endOfExpression => "unexpected end of expression"

/-- The wording of a fault in an operation. -/
def DomainFault.message : DomainFault → String
  | .notFinite => "result is not finite"
  | .fractionalPower base exponent =>
    let lhs := String.ofList (Decimal.plain base)
    let rhs := String.ofList (Decimal.plain exponent)
    s!"negative base {lhs} with fractional exponent {rhs}"

/-- The wording of a fault. -/
def Fault.message : Fault → String
  | .malformed offset fault => s!"parse failure at offset {offset}: {fault.message}"
  | .divisionByZero => "division by zero"
  | .domain fault => s!"domain error: {fault.message}"

/-! ### Values -/

/-- Applies a sign. -/
def UnaryOp.apply (op : UnaryOp) (x : Float) : Float :=
  match op with
  | .plus => x
  | .minus => -x

/-- Applies a binary operation. Nothing is divided by zero, and a negative base takes only whole
exponents. -/
def BinaryOp.apply (op : BinaryOp) (x y : Float) : Except Fault Float :=
  match op with
  | .add => .ok (x + y)
  | .sub => .ok (x - y)
  | .mul => .ok (x * y)
  | .div => if y == 0.0 then .error .divisionByZero else .ok (x / y)
  | .rem => if y == 0.0 then .error .divisionByZero else .ok (Decimal.remainder x y)
  | .pow =>
    if x < 0.0 && !Decimal.isIntegral y then .error (.domain (.fractionalPower x y))
    else .ok (x.pow y)

/-- The value of an expression, the left operand before the right one. -/
def Expr.eval : Expr → Except Fault Float
  | .number value => .ok value
  | .unary op operand => do return op.apply (← operand.eval)
  | .binary op left right => do
    let x ← left.eval
    let y ← right.eval
    op.apply x y

/-- The value of an expression, if it is finite. -/
def Expr.value (e : Expr) : Except Fault Float := do
  let x ← e.eval
  if Decimal.isFinite x then return x else throw (.domain .notFinite)

end Launcher.Arith
