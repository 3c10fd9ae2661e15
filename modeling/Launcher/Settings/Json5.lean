import Launcher.Decimal.Reader
import Launcher.Json.Reader
import Launcher.Settings.Node
import Launcher.Text.Name

namespace Launcher.Settings.Json5

/-!
# JSON5

* `Token` — a mark, a name, a text or a number; `tokenize?` cuts a text into tokens.
* `readNode?` — a tree at the beginning of some tokens.
* `node?` — the tree that a text is.

Names need no quotes, strings may have single ones, commas may trail, and comments stand wherever
blanks do. A number or string that is formed well but has no value is refused only where its value
is wanted, so that it becomes a broken node.
-/

/-- The smallest part of a text that has a meaning. -/
inductive Token where
  | mark (c : Char)
  /-- A name without quotes, in which escapes still stand. -/
  | name (pieces : List Json.Piece)
  /-- A text between quotes, if it has a value. -/
  | text (value : Option String)
  | number (node : Node)

/-! ### Blanks and comments -/

/-- The characters that end a line. -/
def isLineEnd (c : Char) : Bool :=
  c == '\n' || c == '\r' || c == '\u2028' || c == '\u2029'

/-- The characters that may stand between tokens. -/
def isSpace (c : Char) : Bool :=
  c == '\uFEFF' || (Text.isBlank c && c != '\u0085')

/-- What follows the end of a comment that is closed by a mark. -/
def afterComment? (s : List Char) : Option (List Char) :=
  (Text.cutAt? "*/".toList s).map (·.2)

/-! ### Numbers -/

/-- The number of a run of hexadecimal digits. -/
def ofHexDigits (ds : List Char) : Nat :=
  ds.foldl (fun n c => n * 16 + (Text.hexValue? c).getD 0) 0

/-- A letter of either case. -/
def isLetterOf (lower : Char) (c : Char) : Bool :=
  Text.lowerChar c == lower

/-- An exponent at the beginning of a text, and what follows it. -/
def spanExponent (s : List Char) : List Char × List Char :=
  match s with
  | c :: rest =>
    let (sign, rest') := match rest with
      | '+' :: rest' => (['+'], rest')
      | '-' :: rest' => (['-'], rest')
      | rest' => ([], rest')
    let (ds, rest') := Decimal.spanDigits rest'
    if isLetterOf 'e' c && !ds.isEmpty then (c :: sign ++ ds, rest') else ([], s)
  | [] => ([], [])

/-- A decimal number without a sign at the beginning of a text, and what follows it: a whole part
without leading zeros or digits after a point, and an exponent or none. -/
def spanDecimal? (s : List Char) : Option (List Char × List Char) :=
  let (whole, rest) := match s with
    | '0' :: rest => (['0'], rest)
    | s => Decimal.spanDigits s
  let (fraction, rest) := match rest with
    | '.' :: rest => (Decimal.spanDigits rest).map ('.' :: ·) id
    | rest => ([], rest)
  if whole.isEmpty && fraction.length ≤ 1 then none
  else
    let (exponent, rest) := spanExponent rest
    some (whole ++ fraction ++ exponent, rest)

/-- The number of a decimal literal, which is broken if it is too large for a double. A literal
without point and exponent is wide if it is beyond sixty-four bits with a sign. -/
def decimalNode (sign literal : List Char) : Node :=
  match (Decimal.readFloat? (sign ++ literal)).filter Decimal.isFinite with
  | some x =>
    let isWide :=
      match Decimal.readNat? literal with
      | some n => if sign = ['-'] then 1 <<< 63 < n else 1 <<< 63 ≤ n
      | none => false
    .number x isWide
  | none => .broken

/-- The number of hexadecimal digits, which is broken if it has a sign or is beyond thirty-two
bits. -/
def hexNode (sign digits : List Char) : Node :=
  if sign.isEmpty && ofHexDigits digits < UInt32.size then .number (ofHexDigits digits).toFloat false
  else .broken

/-- The two words for numbers. -/
def numberWords : List (List Char × Float) :=
  [("Infinity".toList, 1.0 / 0.0), ("NaN".toList, 0.0 / 0.0)]

/-- The number of a word after a sign, and what follows it. It is broken after a plus sign. -/
def wordNumber? (sign s : List Char) : Option (Node × List Char) :=
  numberWords.findSome? fun (word, x) =>
    (Text.stripStart? word s).map fun rest =>
      (if sign = ['+'] then .broken else .number (if sign = ['-'] then -x else x) false, rest)

/-- A number at the beginning of a text, and what follows it. -/
def readNumber? (s : List Char) : Option (Node × List Char) :=
  let (sign, body) := match s with
    | '+' :: rest => (['+'], rest)
    | '-' :: rest => (['-'], rest)
    | s => ([], s)
  match body with
  | '0' :: x :: rest =>
    let ds := rest.takeWhile fun c => (Text.hexValue? c).isSome
    if isLetterOf 'x' x && !ds.isEmpty then some (hexNode sign ds, rest.drop ds.length)
    else (spanDecimal? body).map (Prod.map (decimalNode sign) id)
  | _ =>
    match wordNumber? sign body with
    | some result => some result
    | none => (spanDecimal? body).map (Prod.map (decimalNode sign) id)

/-! ### Strings and names -/

/-- The character of an escape of one character, which stands for itself if it has no meaning of its
own. -/
def escapedChar? : Char → Option Char
  | 'b' => some '\x08'
  | 'f' => some '\x0c'
  | 'n' => some '\n'
  | 'r' => some '\r'
  | 't' => some '\t'
  | 'v' => some '\x0b'
  | '0' => some '\x00'
  | c => if Text.isDigit c || c == 'x' || c == 'u' then none else some c

/-- The character of a surrogate pair: the bits of both halves, with the lowest bit of the plane set.
A pair thus never names a character of an even plane. -/
def pairedChar (high low : Nat) : Char :=
  Char.ofNat (0x10000 ||| (high - 0xD800) <<< 10 ||| (low - 0xDC00))

/-- The text of some parts. -/
def piecesText? (pieces : List Json.Piece) : Option String :=
  (Json.piecesText? pairedChar pieces).map String.ofList

/-- The parts of a string up to the quote that closes it, and what follows that. A line that ends in
a backslash goes on in the next line; no other line end stands in a string. -/
def readPieces? (quote : Char) : List Char → Option (List Json.Piece × List Char)
  | [] => none
  | '\\' :: 'u' :: a :: b :: c :: d :: rest => do
    let n ← Json.hex4? a b c d
    let (pieces, rest) ← readPieces? quote rest
    return (.unit n :: pieces, rest)
  | '\\' :: 'x' :: a :: b :: rest => do
    let c := Char.ofNat ((← Text.hexValue? a) * 16 + (← Text.hexValue? b))
    let (pieces, rest) ← readPieces? quote rest
    return (.char c :: pieces, rest)
  | '\\' :: '\r' :: '\n' :: rest => readPieces? quote rest
  | '\\' :: e :: rest => do
    if isLineEnd e then readPieces? quote rest
    else
      let c ← escapedChar? e
      let (pieces, rest) ← readPieces? quote rest
      return (.char c :: pieces, rest)
  | c :: rest => do
    if c == quote then some ([], rest)
    else if c == '\\' || isLineEnd c then none
    else
      let (pieces, rest) ← readPieces? quote rest
      return (.char c :: pieces, rest)

/-- The parts of a name at the beginning of a text, and what follows it. -/
def readName (isStart : Bool) : List Char → List Json.Piece × List Char
  | [] => ([], [])
  | '\\' :: 'u' :: a :: b :: e :: f :: rest =>
    match Json.hex4? a b e f with
    | some n => (readName false rest).map (.unit n :: ·) id
    | none => ([], '\\' :: 'u' :: a :: b :: e :: f :: rest)
  | c :: rest =>
    if if isStart then Text.isNameStart c else Text.isNamePart c then
      (readName false rest).map (.char c :: ·) id
    else ([], c :: rest)

/-! ### Tokens -/

/-- A character that stands as it is. -/
def plainChar? : Json.Piece → Option Char
  | .char c => some c
  | .unit _ => none

/-- A word in the place of a value, which is written without escapes. -/
def wordNode? (pieces : List Json.Piece) : Option Node := do
  let word ← pieces.mapM plainChar?
  match String.ofList word with
  | "null" => some .null
  | "true" => some (.bool true)
  | "false" => some (.bool false)
  | _ => (numberWords.lookup word).map fun x => .number x false

/-- The token at the beginning of a text that begins with no blank, and what follows it. -/
def readToken? : List Char → Option (Token × List Char)
  | [] => none
  | c :: rest =>
    if c ∈ ['[', ']', '{', '}', ':', ','] then some (.mark c, rest)
    else if c == '"' || c == '\x27' then
      (readPieces? c rest).map fun (pieces, rest) => (.text (piecesText? pieces), rest)
    else if Text.isDigit c || c ∈ ['+', '-', '.'] then
      (readNumber? (c :: rest)).map fun (node, rest) => (.number node, rest)
    else
      match readName true (c :: rest) with
      | ([], _) => none
      | (pieces, rest) => some (.name pieces, rest)

/-- The tokens of a text, of which there are at most `fuel`, blanks and comments counted as well. -/
def tokenizeWith? : (fuel : Nat) → List Char → Option (List Token)
  | _, [] => some []
  | 0, _ :: _ => none
  | fuel + 1, c :: rest =>
    if isSpace c then tokenizeWith? fuel rest
    else
      match c, rest with
      | '/', '/' :: rest => tokenizeWith? fuel (rest.dropWhile (!isLineEnd ·))
      | '/', '*' :: rest => do tokenizeWith? fuel (← afterComment? rest)
      | _, _ => do
        let (token, rest) ← readToken? (c :: rest)
        return token :: (← tokenizeWith? fuel rest)

/-- The tokens of a text. -/
def tokenize? (s : List Char) : Option (List Token) :=
  tokenizeWith? s.length s

/-! ### Trees -/

/-- What was read, and a rest of the tokens that is shorter than they are. -/
abbrev Read (α : Type) (s : List Token) : Type :=
  Option (α × { rest : List Token // rest.length < s.length })

/-- What follows a mark. -/
def skipMark? (c : Char) : (s : List Token) → Option { rest : List Token // rest.length < s.length }
  | .mark d :: rest => if d = c then some ⟨rest, by simp⟩ else none
  | _ => none

/-- The key of a member, which is a name or a text, and the colon after it. -/
def readKey? : (s : List Token) → Read (Option String) s
  | .name pieces :: .mark ':' :: rest =>
    some (piecesText? pieces, ⟨rest, by simp only [List.length_cons]; omega⟩)
  | .text key :: .mark ':' :: rest => some (key, ⟨rest, by simp only [List.length_cons]; omega⟩)
  | _ => none

/-- A member of a table. One whose key has no value stands without a name for something broken. -/
def member (key : Option String) (value : Node) : String × Node :=
  match key with
  | some key => (key, value)
  | none => ("", .broken)

/-- A table stands for the name of its first member. -/
def tableNode (members : List (String × Node)) : Node :=
  .table members (members.head?.map (·.1))

mutual

/-- A tree at the beginning of some tokens. -/
def readNode? : (s : List Token) → Read Node s
  | .text value :: rest => some (value.elim .broken .text, ⟨rest, by simp⟩)
  | .number node :: rest => some (node, ⟨rest, by simp⟩)
  | .name pieces :: rest => (wordNode? pieces).map fun node => (node, ⟨rest, by simp⟩)
  | .mark '[' :: rest => do
    let (items, ⟨rest, h⟩) ← readItems? rest
    return (.list items, ⟨rest, by simp only [List.length_cons]; omega⟩)
  | .mark '{' :: rest => do
    let (members, ⟨rest, h⟩) ← readMembers? rest
    return (tableNode members, ⟨rest, by simp only [List.length_cons]; omega⟩)
  | _ => none
termination_by s => (s.length, 0)

/-- The items of a list up to its end. -/
def readItems? (s : List Token) : Read (List Node) s :=
  match skipMark? ']' s with
  | some rest => some ([], rest)
  | none => do
    let (item, ⟨rest, h⟩) ← readNode? s
    match skipMark? ',' rest with
    | some ⟨rest', h'⟩ =>
      let (items, ⟨last, hlast⟩) ← readItems? rest'
      return (item :: items, ⟨last, by omega⟩)
    | none =>
      let ⟨rest', h'⟩ ← skipMark? ']' rest
      return ([item], ⟨rest', by omega⟩)
termination_by (s.length, 1)

/-- The members of a table up to its end. -/
def readMembers? (s : List Token) : Read (List (String × Node)) s :=
  match skipMark? '}' s with
  | some rest => some ([], rest)
  | none => do
    let (key, ⟨rest, h⟩) ← readKey? s
    let (value, ⟨rest', h'⟩) ← readNode? rest
    match skipMark? ',' rest' with
    | some ⟨rest'', h''⟩ =>
      let (members, ⟨last, hlast⟩) ← readMembers? rest''
      return (member key value :: members, ⟨last, by omega⟩)
    | none =>
      let ⟨rest'', h''⟩ ← skipMark? '}' rest'
      return ([member key value], ⟨rest'', by omega⟩)
termination_by (s.length, 1)

end

/-- The tree that a text is. -/
def node? (s : List Char) : Option Node := do
  let (node, rest) ← readNode? (← tokenize? s)
  if rest.1.isEmpty then some node else none

end Launcher.Settings.Json5
