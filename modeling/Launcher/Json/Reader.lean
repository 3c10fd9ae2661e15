import Launcher.Json.Document
import Launcher.Decimal.Reader

namespace Launcher.Json

/-!
# Reading JSON

* `readNumeral?`, `readString?` — a number, or a string after its opening quote, at the beginning of
  a text.
* `readDocument?` — a document at the beginning of a text.
* `document?` — a text that is one document, with blanks around it.
* `value?` — the value of a text that is nested no deeper than `depthLimit`.
-/

/-- What was read, and a rest of the text that is shorter than it. -/
abbrev Read (α : Type) (s : List Char) : Type :=
  Option (α × { rest : List Char // rest.length < s.length })

/-- The characters that may stand between tokens. -/
def isSpace (c : Char) : Bool :=
  c == ' ' || c == '\n' || c == '\t' || c == '\r'

/-- The text from the first character on that is no space. -/
def skipSpace (s : List Char) : List Char :=
  s.dropWhile isSpace

theorem length_skipSpace_le (s : List Char) : (skipSpace s).length ≤ s.length :=
  (List.dropWhile_sublist isSpace).length_le

/-! ### Numbers -/

/-- The digits after a point, if the text begins with one. -/
def readFraction? (s : List Char) : Option (Option (List Char) × List Char) :=
  match s with
  | '.' :: s =>
    let (ds, rest) := Decimal.spanDigits s
    if ds.isEmpty then none else some (some ds, rest)
  | s => some (none, s)

/-- The sign and the digits of an exponent, if the text begins with one. -/
def readPower? (s : List Char) : Option (Option (Bool × List Char) × List Char) :=
  match s with
  | c :: s =>
    if c == 'e' || c == 'E' then
      let (below, s) := match s with
        | '-' :: s => (true, s)
        | '+' :: s => (false, s)
        | s => (false, s)
      let (ds, rest) := Decimal.spanDigits s
      if ds.isEmpty then none else some (some (below, ds), rest)
    else some (none, c :: s)
  | [] => some (none, [])

/-- A number at the beginning of a text: no zero stands before another digit. -/
def readNumeral? (s : List Char) : Option (Numeral × List Char) := do
  let (negative, s) := match s with
    | '-' :: s => (true, s)
    | s => (false, s)
  let (whole, s) := Decimal.spanDigits s
  if whole.isEmpty || (whole.head? == some '0' && 1 < whole.length) then none
  let (fraction, s) ← readFraction? s
  let (exponent, s) ← readPower? s
  return (⟨negative, whole, fraction, exponent⟩, s)

/-! ### Strings -/

/-- A part of a string: a character, or a sixteen-bit unit that an escape names. -/
inductive Piece where
  | char (c : Char)
  | unit (n : Nat)

/-- The value of four hexadecimal digits. -/
def hex4? (a b c d : Char) : Option Nat := do
  let a ← Text.hexValue? a
  let b ← Text.hexValue? b
  let c ← Text.hexValue? c
  let d ← Text.hexValue? d
  return ((a * 16 + b) * 16 + c) * 16 + d

/-- The character of an escape of one letter. -/
def shortEscape? : Char → Option Char
  | '"' => some '"'
  | '\\' => some '\\'
  | '/' => some '/'
  | 'b' => some '\x08'
  | 'f' => some '\x0c'
  | 'n' => some '\n'
  | 'r' => some '\r'
  | 't' => some '\t'
  | _ => none

/-- The parts of a string up to its closing quote, and what follows it. -/
def readPieces? : List Char → Option (List Piece × List Char)
  | [] => none
  | '"' :: rest => some ([], rest)
  | '\\' :: 'u' :: a :: b :: c :: d :: rest => do
    let n ← hex4? a b c d
    let (pieces, rest) ← readPieces? rest
    return (.unit n :: pieces, rest)
  | '\\' :: e :: rest => do
    let c ← shortEscape? e
    let (pieces, rest) ← readPieces? rest
    return (.char c :: pieces, rest)
  | c :: rest => do
    if c == '\\' || c.toNat < 0x20 then none
    let (pieces, rest) ← readPieces? rest
    return (.char c :: pieces, rest)

/-- A unit that is the first half of a surrogate pair. -/
def isHighSurrogate (n : Nat) : Bool :=
  0xD800 ≤ n && n ≤ 0xDBFF

/-- A unit that is the second half of a surrogate pair. -/
def isLowSurrogate (n : Nat) : Bool :=
  0xDC00 ≤ n && n ≤ 0xDFFF

/-- The character that a surrogate pair stands for. -/
def pairedChar (high low : Nat) : Char :=
  Char.ofNat (0x10000 + (high - 0xD800) * 0x400 + (low - 0xDC00))

/-- The text of the parts, if every half of a surrogate pair has its other half; `join` makes a
character of both. -/
def piecesText? (join : Nat → Nat → Char) : List Piece → Option (List Char)
  | [] => some []
  | .char c :: rest => (piecesText? join rest).map (c :: ·)
  | .unit n :: rest =>
    if isHighSurrogate n then
      match rest with
      | .unit m :: rest =>
        if isLowSurrogate m then (piecesText? join rest).map (join n m :: ·) else none
      | _ => none
    else if isLowSurrogate n then none
    else (piecesText? join rest).map (Char.ofNat n :: ·)

/-- A string after its opening quote. -/
def readString? (s : List Char) : Option (Option String × List Char) :=
  (readPieces? s).map fun (pieces, rest) => ((piecesText? pairedChar pieces).map String.ofList, rest)

/-! ### Documents -/

/-- The reading, if the rest is shorter than the text. -/
def shorter? {α : Type} (s : List Char) (r : Option (α × List Char)) : Read α s :=
  match r with
  | some (x, rest) => if h : rest.length < s.length then some (x, ⟨rest, h⟩) else none
  | none => none

/-- The rest of a text after a space and one character, if that is `c`. -/
def skipChar? (c : Char) (s : List Char) : Option { rest : List Char // rest.length < s.length } :=
  match h : skipSpace s with
  | d :: rest =>
    if d = c then
      some ⟨rest, by
        have := length_skipSpace_le s
        rw [h, List.length_cons] at this
        omega⟩
    else none
  | [] => none

/-- A key and the colon after it, at the beginning of a text. -/
def readKey? (s : List Char) : Read (Option String) s := do
  let ⟨s', h⟩ ← skipChar? '"' s
  let (key, ⟨s'', h'⟩) ← shorter? s' (readString? s')
  let ⟨rest, h''⟩ ← skipChar? ':' s''
  return (key, ⟨rest, by omega⟩)

/-- A document that holds no other, whose first character is `c`. -/
def readScalar? (c : Char) (rest : List Char) : Option (Document × List Char) :=
  if c = '"' then (readString? rest).map fun (text, rest) => (.string text, rest)
  else if c = 'n' then (Text.stripStart? "ull".toList rest).map fun rest => (.null, rest)
  else if c = 't' then (Text.stripStart? "rue".toList rest).map fun rest => (.bool true, rest)
  else if c = 'f' then (Text.stripStart? "alse".toList rest).map fun rest => (.bool false, rest)
  else (readNumeral? (c :: rest)).map fun (n, rest) => (.number n, rest)

mutual

/-- A document at the beginning of a text. -/
def readDocument? (s : List Char) : Read Document s :=
  match hs : skipSpace s with
  | [] => none
  | c :: rest =>
    have shrinks : rest.length < s.length := by
      have := length_skipSpace_le s
      rw [hs, List.length_cons] at this
      omega
    if c = '[' then
      match skipChar? ']' rest with
      | some ⟨rest', h'⟩ => some (.array [], ⟨rest', by omega⟩)
      | none => do
        let (items, ⟨rest', h'⟩) ← readItems? rest
        return (.array items, ⟨rest', by omega⟩)
    else if c = '{' then
      match skipChar? '}' rest with
      | some ⟨rest', h'⟩ => some (.object [], ⟨rest', by omega⟩)
      | none => do
        let (members, ⟨rest', h'⟩) ← readMembers? rest
        return (.object members, ⟨rest', by omega⟩)
    else shorter? s (readScalar? c rest)
termination_by (s.length, 1)

/-- The items of an array that has some, up to its end. -/
def readItems? (s : List Char) : Read (List Document) s := do
  let (item, ⟨rest, h⟩) ← readDocument? s
  match skipChar? ',' rest with
  | some ⟨rest', h'⟩ =>
    let (items, ⟨rest'', h''⟩) ← readItems? rest'
    return (item :: items, ⟨rest'', by omega⟩)
  | none =>
    let ⟨rest', h'⟩ ← skipChar? ']' rest
    return ([item], ⟨rest', by omega⟩)
termination_by (s.length, 2)

/-- The members of an object that has some, up to its end. -/
def readMembers? (s : List Char) : Read (List (Option String × Document)) s := do
  let (key, ⟨rest, h⟩) ← readKey? s
  let (value, ⟨rest', h'⟩) ← readDocument? rest
  match skipChar? ',' rest' with
  | some ⟨rest'', h''⟩ =>
    let (members, ⟨last, hlast⟩) ← readMembers? rest''
    return ((key, value) :: members, ⟨last, by omega⟩)
  | none =>
    let ⟨rest'', h''⟩ ← skipChar? '}' rest'
    return ([(key, value)], ⟨rest'', by omega⟩)
termination_by (s.length, 2)

end
/-! ### Whole texts -/

/-- The document that a text is. -/
def document? (s : List Char) : Option Document := do
  let (d, rest) ← readDocument? s
  if (skipSpace rest.1).isEmpty then some d else none

/-- The value that a text is. -/
def value? (s : List Char) : Option Value := do
  let d ← document? s
  if d.depth ≤ depthLimit then d.value? else none

end Launcher.Json
