import Launcher.Arith.Token
import Launcher.Color.Literal
import Launcher.Tool

namespace Launcher

/-!
# What a query means

* `Conversion` — an amount and the names of two units; `Conversion.parse?` reads it off a query.
* `Intent` — the one interpreter that a query is for.
* `Intent.classify` — a tool's call, a color, a conversion, an expression, or free text.
-/

/-- An amount to be taken from one unit or currency to another. -/
structure Conversion where
  amount : Float
  source : String
  target : String
deriving Repr

/-- A decimal with an optional sign at the beginning of a text, and what follows it: digits with at
most one point among them, at least one digit. -/
def signedDecimal? (s : List Char) : Option (List Char × List Char) :=
  let (sign, body) := match s with
    | '+' :: rest => (['+'], rest)
    | '-' :: rest => (['-'], rest)
    | s => ([], s)
  let (whole, rest) := Decimal.spanDigits body
  let (fraction, rest') := match rest with
    | '.' :: rest => (Decimal.spanDigits rest).map ('.' :: ·) id
    | rest => ([], rest)
  if (whole ++ fraction).any Text.isDigit then some (sign ++ whole ++ fraction, rest') else none

/-- What stands before and after the last ` to ` of a text, in any case of letters. -/
def cutAtTo? (s : List Char) : Option (List Char × List Char) :=
  (Text.cutAtLast? " to ".toList (Text.lower s)).map fun (before, _) =>
    (s.take before.length, s.drop (before.length + 4))

/-- Reads a number, a source and, after the last ` to `, a target. -/
def Conversion.parse? (query : List Char) : Option Conversion := do
  let (left, right) ← cutAtTo? (Text.trim query)
  let target := Text.trim right
  if target.isEmpty then none
  let (number, rest) ← signedDecimal? (Text.trim left)
  let amount ← Decimal.readFloat? number
  let source := Text.trim rest
  if source.isEmpty || !Decimal.isFinite amount then none
  return ⟨amount, String.ofList source, String.ofList target⟩

/-- The one interpreter that a query is for, with what it interprets. -/
inductive Intent where
  | tool (call : Tool.Call)
  | color (text : String)
  | conversion (conversion : Conversion)
  | arithmetic (text : String)
  | freeText (text : String)
deriving Repr

/-- The first interpreter that claims a query, even if it will make nothing of it. -/
def Intent.classify (query : List Char) : Intent :=
  match Tool.Call.parse? query with
  | some call => .tool call
  | none =>
    let text := String.ofList (Text.trim query)
    if Color.looksLikeColor query then .color text
    else match Conversion.parse? query with
      | some c => .conversion c
      | none => if Arith.looksLikeExpression query then .arithmetic text else .freeText text

end Launcher
