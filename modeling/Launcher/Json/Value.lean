import Launcher.Decimal.Shortest

namespace Launcher.Json

/-!
# JSON values and their texts

* `Value` — a JSON value; the members of an object keep their order.
* `Value.compact` — the value on one line without blanks.
* `Value.pretty` — the value with one member or item a line.

A double is written as the shortest decimal that reads back; one that is not finite is `null`.
-/

/-- A JSON value. -/
inductive Value where
  | null
  | bool (value : Bool)
  | int (value : Int)
  | float (value : Float)
  | string (value : String)
  | array (items : List Value)
  | object (members : List (String × Value))

/-! ### Scalars -/

/-- The written form of a character in a string: quotes, backslashes and control characters are
escaped. -/
def escapeChar (c : Char) : List Char :=
  if c = '"' then ['\\', '"']
  else if c = '\\' then ['\\', '\\']
  else if c = '\x08' then ['\\', 'b']
  else if c = '\x0c' then ['\\', 'f']
  else if c = '\n' then ['\\', 'n']
  else if c = '\r' then ['\\', 'r']
  else if c = '\t' then ['\\', 't']
  else if c.toNat < 0x20 then
    ['\\', 'u', '0', '0', Text.hexDigit (c.toNat / 16), Text.hexDigit (c.toNat % 16)]
  else [c]

/-- A string in quotes. -/
def quote (s : List Char) : List Char :=
  '"' :: s.flatMap escapeChar ++ ['"']

/-- The decimal text of an integer. -/
def intText (n : Int) : List Char :=
  if n < 0 then '-' :: Decimal.digits n.natAbs else Decimal.digits n.natAbs

/-- The text of a double. -/
def floatText (x : Float) : List Char :=
  (Decimal.scientific? x).getD "null".toList

/-! ### On one line -/

mutual

/-- The text of a value without blanks. -/
def Value.chars : Value → List Char
  | .null => "null".toList
  | .bool true => "true".toList
  | .bool false => "false".toList
  | .int n => intText n
  | .float x => floatText x
  | .string s => quote s.toList
  | .array [] => "[]".toList
  | .array (x :: xs) => '[' :: x.chars ++ itemsChars xs
  | .object [] => "\x7b\x7d".toList
  | .object ((k, x) :: xs) => '{' :: quote k.toList ++ ':' :: x.chars ++ membersChars xs

/-- The further items of an array, and its end. -/
def itemsChars : List Value → List Char
  | [] => [']']
  | x :: xs => ',' :: x.chars ++ itemsChars xs

/-- The further members of an object, and its end. -/
def membersChars : List (String × Value) → List Char
  | [] => ['}']
  | (k, x) :: xs => ',' :: quote k.toList ++ ':' :: x.chars ++ membersChars xs

end

/-- The text of a value without blanks. -/
def Value.compact (v : Value) : String :=
  String.ofList v.chars

/-! ### On several lines -/

/-- The beginning of a line at a depth: two blanks for each level. -/
def newLine (depth : Nat) : List Char :=
  '\n' :: List.replicate (2 * depth) ' '

mutual

/-- The text of a value whose lines stand at a depth. -/
def Value.lines (depth : Nat) : Value → List Char
  | .array (x :: xs) => '[' :: newLine (depth + 1) ++ x.lines (depth + 1) ++ itemsLines depth xs
  | .object ((k, x) :: xs) =>
    '{' :: newLine (depth + 1) ++ quote k.toList ++ ':' :: ' ' :: x.lines (depth + 1) ++
      membersLines depth xs
  | v => v.chars

/-- The further items of an array, and its end. -/
def itemsLines (depth : Nat) : List Value → List Char
  | [] => newLine depth ++ [']']
  | x :: xs => ',' :: newLine (depth + 1) ++ x.lines (depth + 1) ++ itemsLines depth xs

/-- The further members of an object, and its end. -/
def membersLines (depth : Nat) : List (String × Value) → List Char
  | [] => newLine depth ++ ['}']
  | (k, x) :: xs =>
    ',' :: newLine (depth + 1) ++ quote k.toList ++ ':' :: ' ' :: x.lines (depth + 1) ++
      membersLines depth xs

end

/-- The text of a value with one member or item a line. -/
def Value.pretty (v : Value) : String :=
  String.ofList (v.lines 0)

end Launcher.Json
