import Launcher.Arith.Expr
import Launcher.Decimal.Reader
import Launcher.Text.Blank

namespace Launcher.Arith

/-!
# Tokens of an arithmetic expression

* `Token` — a number, an operator or a parenthesis.
* `tokenize` — the tokens of a text with the offsets at which they begin.

A number is a maximal run of digits and points; blank characters stand between tokens.
-/

/-- A token. -/
inductive Token where
  | number (value : Float)
  | op (op : BinaryOp)
  | openParen
  | closeParen
deriving Repr

/-- A token and the offset of its first character. -/
structure Placed where
  offset : Nat
  token : Token
deriving Repr

/-- The characters of numbers. -/
def isNumeric (c : Char) : Bool :=
  Text.isDigit c || c == '.'

/-- The token that one character makes up. -/
def symbol? : Char → Option Token
  | '+' => some (.op .add)
  | '-' => some (.op .sub)
  | '*' => some (.op .mul)
  | '/' => some (.op .div)
  | '%' => some (.op .rem)
  | '^' => some (.op .pow)
  | '(' => some .openParen
  | ')' => some .closeParen
  | _ => none

/-- The tokens of a text whose first character stands at `offset`. -/
def tokenizeFrom (offset : Nat) : List Char → Except Fault (List Placed)
  | [] => .ok []
  | c :: s =>
    if Text.isBlank c then tokenizeFrom (offset + 1) s
    else if isNumeric c then
      let run := c :: s.takeWhile isNumeric
      match Decimal.readUnsigned? false run with
      | none => .error (.malformed offset (.invalidNumber (String.ofList run)))
      | some value => do
        let tokens ← tokenizeFrom (offset + run.length) (s.dropWhile isNumeric)
        return ⟨offset, .number value⟩ :: tokens
    else
      match symbol? c with
      | none => .error (.malformed offset (.unexpectedCharacter c))
      | some token => do
        let tokens ← tokenizeFrom (offset + 1) s
        return ⟨offset, token⟩ :: tokens
termination_by s => s.length
decreasing_by
  · simp
  · exact Nat.lt_succ_of_le (List.dropWhile_sublist isNumeric).length_le
  · simp

/-- The tokens of a text. -/
def tokenize (s : List Char) : Except Fault (List Placed) :=
  tokenizeFrom 0 s

/-- A text that may be an expression: its characters are digits, points, operators, parentheses and
blanks, and there is a digit among them. -/
def looksLikeExpression (s : List Char) : Bool :=
  let body := Text.trim s
  body.all (fun c => isNumeric c || Text.isBlank c || (symbol? c).isSome) && body.any Text.isDigit

end Launcher.Arith
