import Launcher.Decimal.Reader
import Launcher.Settings.Node

namespace Launcher.Settings.Toml

/-!
# TOML

* `Item`, `Members` — a table under construction: it is known how each table in it came about.
* `addMember?`, `openTable?`, `openTables?` — what a line does to a table.
* `readValue?` — a value at the beginning of a text.
* `readLine?`, `node?` — a line, and the tree that a text is.

A table can be opened by one header, or be built from dotted names, but not both.
-/

/-- How deeply values may be nested in one another, and how many parts a dotted name may have. -/
def nestingLimit : Nat := 79

/-! ### Tables under construction -/

/-- What stands under a name. -/
inductive Item where
  | value (node : Node)
  /-- A table that was opened by its header. -/
  | opened (members : List (String × Item))
  /-- A table that was named on the way to another. -/
  | passed (members : List (String × Item))
  /-- A table that was named before a dot. -/
  | dotted (members : List (String × Item))
  /-- The tables of a list, the last first. -/
  | tables (last : List (String × Item)) (others : List (List (String × Item)))

/-- The members of a table. -/
abbrev Members : Type := List (String × Item)

/-- Replaces the member of a name, or puts a new one at the end. -/
def putMember (name : String) (item : Item) : Members → Members
  | [] => [(name, item)]
  | (n, i) :: rest => if n = name then (n, item) :: rest else (n, i) :: putMember name item rest

/-- Adds a member whose name was not used. -/
def addNew? (name : String) (item : Item) (members : Members) : Option Members :=
  if (members.lookup name).isSome then none else some (members ++ [(name, item)])

/-- Adds a value under a dotted name. The tables before the dots must have come about by dots. -/
def addMember? (path : List String) (name : String) (node : Node) (members : Members) :
    Option Members :=
  match path with
  | [] => addNew? name (.value node) members
  | p :: path =>
    match members.lookup p with
    | none => do
      let inner ← addMember? path name node []
      return members ++ [(p, .dotted inner)]
    | some (.dotted inner) => do
      return putMember p (.dotted (← addMember? path name node inner)) members
    | some (.passed inner) =>
      if path.isEmpty then none
      else do return putMember p (.passed (← addMember? path name node inner)) members
    | some (.tables last others) =>
      if path.isEmpty then none
      else do return putMember p (.tables (← addMember? path name node last) others) members
    | _ => none

/-- Changes the table at the end of a path of names, and makes the tables that are missing on the
way. -/
def descend? (path : List String) (change : Members → Option Members) (members : Members) :
    Option Members :=
  match path with
  | [] => change members
  | p :: path =>
    match members.lookup p with
    | none => do return members ++ [(p, .passed (← descend? path change []))]
    | some (.opened inner) => do return putMember p (.opened (← descend? path change inner)) members
    | some (.passed inner) => do return putMember p (.passed (← descend? path change inner)) members
    | some (.dotted inner) => do return putMember p (.dotted (← descend? path change inner)) members
    | some (.tables last others) => do
      return putMember p (.tables (← descend? path change last) others) members
    | some (.value _) => none

/-- Opens a table that was not opened before and has no dotted name. -/
def openTable? (name : String) (members : Members) : Option Members :=
  match members.lookup name with
  | none => some (members ++ [(name, .opened [])])
  | some (.passed inner) => some (putMember name (.opened inner) members)
  | _ => none

/-- Opens the next table of a list. -/
def openTables? (name : String) (members : Members) : Option Members :=
  match members.lookup name with
  | none => some (members ++ [(name, .tables [] [])])
  | some (.tables last others) => some (putMember name (.tables [] (last :: others)) members)
  | _ => none

/-- A table stands for the name of its only member if that is empty. -/
def tableNode (members : List (String × Node)) : Node :=
  .table members <|
    match members with
    | [(name, .table [] _)] | [(name, .list [])] => some name
    | _ => none

mutual

/-- The tree of a finished item. -/
def Item.node : Item → Node
  | .value node => node
  | .opened members | .passed members | .dotted members => tableNode (memberNodes members)
  | .tables last others => .list ((tableNodes others).reverse ++ [tableNode (memberNodes last)])

/-- The trees of finished members. -/
def memberNodes : List (String × Item) → List (String × Node)
  | [] => []
  | (name, item) :: rest => (name, item.node) :: memberNodes rest

/-- The trees of finished tables. -/
def tableNodes : List (List (String × Item)) → List Node
  | [] => []
  | members :: rest => tableNode (memberNodes members) :: tableNodes rest

end

/-! ### Blanks, comments and names -/

/-- Blanks within a line. -/
def isSpace (c : Char) : Bool :=
  c == ' ' || c == '\t'

/-- Drops the blanks at the beginning. -/
def skipSpace (s : List Char) : List Char :=
  s.dropWhile isSpace

/-- The characters that must not stand as they are. -/
def isControl (c : Char) : Bool :=
  (c.toNat < 0x20 && c != '\t') || c.toNat == 0x7F

/-- Drops a comment at the beginning, if there is one, up to the end of its line. -/
def skipComment (s : List Char) : List Char :=
  match s with
  | '#' :: rest => rest.dropWhile (!isControl ·)
  | s => s

/-- What follows the end of a line at the beginning of a text. -/
def newline? : List Char → Option (List Char)
  | '\n' :: rest => some rest
  | '\r' :: '\n' :: rest => some rest
  | _ => none

/-- What follows a line whose rest holds nothing more; nothing at all at the end of the text. -/
def endOfLine? (s : List Char) : Option (List Char) :=
  match skipComment (skipSpace s) with
  | [] => some []
  | s => newline? s

/-- Drops blanks, comments and ends of lines. -/
def skipLines : (fuel : Nat) → List Char → List Char
  | 0, s => s
  | fuel + 1, s =>
    match newline? (skipComment (skipSpace s)) with
    | some rest => skipLines fuel rest
    | none => skipComment (skipSpace s)

/-- The characters of names without quotes. -/
def isBare (c : Char) : Bool :=
  Text.isAlphanumeric c || c == '_' || c == '-'

/-! ### Strings -/

/-- The number of some hexadecimal digits. -/
def hexNumber? (ds : List Char) : Option Nat :=
  ds.foldl (fun n c => do return (← n) * 16 + (← Text.hexValue? c)) (some 0)

/-- A number is that of a character. -/
def charOf? (n : Nat) : Option Char :=
  if n.isValidChar then some (Char.ofNat n) else none

/-- The character of an escape after its backslash, and what follows it. -/
def escape? : List Char → Option (Char × List Char)
  | 'b' :: rest => some ('\x08', rest)
  | 't' :: rest => some ('\t', rest)
  | 'n' :: rest => some ('\n', rest)
  | 'f' :: rest => some ('\x0c', rest)
  | 'r' :: rest => some ('\r', rest)
  | '"' :: rest => some ('"', rest)
  | '\\' :: rest => some ('\\', rest)
  | 'u' :: rest => do
    if rest.length < 4 then none
    return (← charOf? (← hexNumber? (rest.take 4)), rest.drop 4)
  | 'U' :: rest => do
    if rest.length < 8 then none
    return (← charOf? (← hexNumber? (rest.take 8)), rest.drop 8)
  | _ => none

/-- A string on one line after its opening quote; escapes have a meaning between double quotes. -/
def readLineString? (quote : Char) : (fuel : Nat) → List Char → Option (List Char × List Char)
  | 0, _ | _, [] => none
  | fuel + 1, c :: rest =>
    if c == quote then some ([], rest)
    else if c == '\\' && quote == '"' then do
      let (e, rest) ← escape? rest
      return (← readLineString? quote fuel rest).map (e :: ·) id
    else if isControl c then none
    else (readLineString? quote fuel rest).map (Prod.map (c :: ·) id)

/-- Drops blanks and ends of lines. -/
def skipBlankLines : List Char → List Char
  | [] => []
  | '\r' :: '\n' :: rest => skipBlankLines rest
  | c :: rest => if isSpace c || c == '\n' then skipBlankLines rest else c :: rest

/-- A string of several lines after its opening quotes. It ends with three quotes, before which two
more may stand. -/
def readBlock? (quote : Char) : (fuel : Nat) → List Char → Option (List Char × List Char)
  | 0, _ | _, [] => none
  | fuel + 1, c :: rest =>
    let run := (c :: rest).takeWhile (· == quote)
    if 3 ≤ run.length then
      let count := min run.length 5
      some (List.replicate (count - 3) quote, (c :: rest).drop count)
    else if c == '\\' && quote == '"' then
      match newline? (skipSpace rest) with
      | some rest => readBlock? quote fuel (skipBlankLines rest)
      | none => do
        let (e, rest) ← escape? rest
        return (← readBlock? quote fuel rest).map (e :: ·) id
    else
      match newline? (c :: rest) with
      | some rest => (readBlock? quote fuel rest).map (Prod.map ('\n' :: ·) id)
      | none =>
        if isControl c then none else (readBlock? quote fuel rest).map (Prod.map (c :: ·) id)

/-- A string on one line, and what follows it. -/
def readQuoted? (s : List Char) : Option (String × List Char) :=
  match s with
  | q :: rest =>
    if q == '"' || q == '\x27' then
      (readLineString? q (rest.length + 1) rest).map (Prod.map String.ofList id)
    else none
  | [] => none

/-- A string, and what follows it. An end of line right after three quotes is dropped. -/
def readString? (s : List Char) : Option (String × List Char) :=
  match s with
  | a :: b :: c :: rest =>
    if a = b && b = c && (a == '"' || a == '\x27') then
      let body := (newline? rest).getD rest
      (readBlock? a (body.length + 1) body).map (Prod.map String.ofList id)
    else readQuoted? s
  | s => readQuoted? s

/-! ### Names -/

/-- A name without dots, and what follows it. -/
def readName? (s : List Char) : Option (String × List Char) :=
  let bare := s.takeWhile isBare
  if bare.isEmpty then readQuoted? s else some (String.ofList bare, s.drop bare.length)

/-- A dotted name of at most `limit` parts as those before the last dot and the last one, and what
follows it. -/
def readParts? : (limit : Nat) → List Char → Option (List String × String × List Char)
  | 0, _ => none
  | limit + 1, s => do
    let (name, rest) ← readName? (skipSpace s)
    match skipSpace rest with
    | '.' :: rest =>
      let (path, last, rest) ← readParts? limit rest
      return (name :: path, last, rest)
    | rest => return ([], name, rest)

/-- A dotted name as its parts before the last dot and the last part, and what follows it. -/
def readPath? (s : List Char) : Option (List String × String × List Char) :=
  readParts? nestingLimit s

/-! ### Numbers, dates and words -/

/-- Digits of a base, with single underscores between them. -/
def digitsOf? (isDigit : Char → Bool) (s : List Char) : Option (List Char) :=
  let groups := Text.splitOn ['_'] s
  if groups.all fun g => !g.isEmpty && g.all isDigit then some groups.flatten else none

/-- A whole number within sixty-four bits, sign included. -/
def int64? (n : Int) : Option Node :=
  if Int64.minValue.toInt ≤ n ∧ n ≤ Int64.maxValue.toInt then some (.integer n) else none

/-- The sign at the beginning of a literal and the rest of it. -/
def splitSign : List Char → Bool × List Char
  | '-' :: rest => (true, rest)
  | '+' :: rest => (false, rest)
  | s => (false, s)

/-- Decimal digits without leading zeros. -/
def plainDigits? (s : List Char) : Option (List Char) :=
  (digitsOf? Text.isDigit s).filter fun ds => ds.length = 1 || ds.head? != some '0'

/-- A whole number in a base after its mark. -/
def basedInteger? (base : Nat) (s : List Char) : Option Node := do
  let isDigit := fun c => (Text.hexValue? c).any (· < base)
  let ds ← digitsOf? isDigit s
  int64? (ds.foldl (fun n c => n * base + (Text.hexValue? c).getD 0) 0)

/-- A whole number. -/
def integer? (s : List Char) : Option Node :=
  match s with
  | '0' :: 'x' :: ds => basedInteger? 16 ds
  | '0' :: 'o' :: ds => basedInteger? 8 ds
  | '0' :: 'b' :: ds => basedInteger? 2 ds
  | s => do
    let (negative, ds) := splitSign s
    let n := Decimal.ofDigits (← plainDigits? ds)
    int64? (if negative then -(n : Int) else n)

/-- A number with a point or an exponent, or a word for one. It must not be too large for a double,
but may be too far below zero. -/
def fraction? (s : List Char) : Option Node := do
  let (negative, body) := splitSign s
  if body = "inf".toList ∨ body = "nan".toList then return .fraction
  let isMark := fun c => c == 'e' || c == 'E'
  let mantissa := body.takeWhile (!isMark ·)
  let exponent : List Char ←
    match body.dropWhile (!isMark ·) with
    | [] => some []
    | _ :: e =>
      let (below, ds) := splitSign e
      (digitsOf? Text.isDigit ds).map fun ds => 'e' :: (if below then '-' else '+') :: ds
  let whole ← plainDigits? (mantissa.takeWhile (· != '.'))
  let fraction : List Char ←
    match mantissa.dropWhile (· != '.') with
    | [] => if exponent.isEmpty then none else some []
    | _ :: ds => (digitsOf? Text.isDigit ds).map ('.' :: ·)
  let x ← Decimal.readFloat? ((if negative then ['-'] else []) ++ whole ++ fraction ++ exponent)
  if negative || Decimal.isFinite x then some .fraction else none

/-- The number of exactly `width` digits, if it is at least `low` and at most `high`. -/
def field? (width low high : Nat) (s : List Char) : Option Nat := do
  if s.length ≠ width then none
  (Decimal.readNat? s).filter fun n => low ≤ n && n ≤ high

/-- The number of days of a month. -/
def daysIn (year month : Nat) : Nat :=
  if month = 2 then
    if year % 4 = 0 ∧ (year % 100 ≠ 0 ∨ year % 400 = 0) then 29 else 28
  else if month ∈ [4, 6, 9, 11] then 30 else 31

/-- A date. -/
def isDate (s : List Char) : Bool :=
  match Text.splitOn ['-'] s with
  | [y, m, d] => ((do
      let year ← field? 4 0 9999 y
      let month ← field? 2 1 12 m
      field? 2 1 (daysIn year month) d) : Option Nat).isSome
  | _ => false

/-- A time of day, with a fraction of a second or without. -/
def isTime (s : List Char) : Bool :=
  let fraction := s.dropWhile (· != '.')
  let isFraction := match fraction with
    | [] => true
    | _ :: ds => !ds.isEmpty && ds.all Text.isDigit
  match Text.splitOn [':'] (s.takeWhile (· != '.')) with
  | [h, m, s] =>
    (field? 2 0 23 h).isSome && (field? 2 0 59 m).isSome && (field? 2 0 60 s).isSome && isFraction
  | _ => false

/-- The distance of a time from universal time. -/
def isOffset (s : List Char) : Bool :=
  match s with
  | [] => true
  | [c] => c == 'Z' || c == 'z'
  | c :: rest => (c == '+' || c == '-') && isTime (rest ++ ":00".toList) && rest.length = 5

/-- A time with the distance from universal time. -/
def isFullTime (s : List Char) : Bool :=
  let isMark := fun c => c == 'Z' || c == 'z' || c == '+' || c == '-'
  isTime (s.takeWhile (!isMark ·)) && isOffset (s.dropWhile (!isMark ·))

/-- A date, a time, or both. -/
def isMoment (s : List Char) : Bool :=
  let date := s.take 10
  match s.drop 10 with
  | [] => isDate s || isTime s
  | c :: time =>
    ((c == 'T' || c == 't' || c == ' ') && isDate date && isFullTime time) || isTime s

/-- The characters of numbers and words. -/
def isLiteral (c : Char) : Bool :=
  Text.isAlphanumeric c || c ∈ ['_', '-', '+', '.', ':']

/-- A literal at the beginning of a text, and what follows it. A date may be separated by a blank
from the time of day. -/
def spanLiteral (s : List Char) : List Char × List Char :=
  let literal := s.takeWhile isLiteral
  match s.drop literal.length with
  | ' ' :: rest =>
    if isDate literal && (rest.head?.any Text.isDigit) then
      let time := rest.takeWhile isLiteral
      (literal ++ ' ' :: time, rest.drop time.length)
    else (literal, ' ' :: rest)
  | rest => (literal, rest)

/-- The value of a literal. -/
def literalNode? (s : List Char) : Option Node :=
  if s = "true".toList then some (.bool true)
  else if s = "false".toList then some (.bool false)
  else if isMoment s then some .moment
  else (integer? s).or (fraction? s)

/-! ### Values -/

mutual

/-- A value at the beginning of a text, in which at most `room` lists and tables stand in one
another, and what follows it. -/
def readValue? : (room fuel : Nat) → List Char → Option (Node × List Char)
  | _, 0, _ => none
  | room, fuel + 1, s =>
    match s with
    | '[' :: rest =>
      if room = 0 then none
      else (readItems? (room - 1) fuel (skipLines rest.length rest)).map (Prod.map .list id)
    | '{' :: rest =>
      if room = 0 then none
      else
        match skipSpace rest with
        | '}' :: rest => some (tableNode [], rest)
        | rest => (readMembers? (room - 1) fuel [] rest).map fun (members, rest) =>
          (tableNode (memberNodes members), rest)
    | s =>
      match readString? s with
      | some (text, rest) => some (.text text, rest)
      | none =>
        let (literal, rest) := spanLiteral s
        (literalNode? literal).map fun node => (node, rest)

/-- The items of a list up to its end. -/
def readItems? : (room fuel : Nat) → List Char → Option (List Node × List Char)
  | _, 0, _ => none
  | room, fuel + 1, s =>
    match s with
    | ']' :: rest => some ([], rest)
    | s => do
      let (item, rest) ← readValue? room fuel s
      match skipLines rest.length rest with
      | ',' :: rest =>
        return (← readItems? room fuel (skipLines rest.length rest)).map (item :: ·) id
      | ']' :: rest => return ([item], rest)
      | _ => none

/-- The further members of a table within a line, up to its end. -/
def readMembers? : (room fuel : Nat) → Members → List Char → Option (Members × List Char)
  | _, 0, _, _ => none
  | room, fuel + 1, members, s => do
    let (path, name, rest) ← readPath? s
    match rest with
    | '=' :: rest =>
      let (node, rest) ← readValue? room fuel (skipSpace rest)
      let members ← addMember? path name node members
      match skipSpace rest with
      | ',' :: rest => readMembers? room fuel members rest
      | '}' :: rest => return (members, rest)
      | _ => none
    | _ => none

end

/-! ### Lines -/

/-- A text that is being read: the whole table, and the way to the table that lines belong to. -/
structure State where
  root : Members := []
  path : List String := []

/-- Reads a header after its bracket, or after its two brackets for the next table of a list. -/
def readHeader? (isList : Bool) (state : State) (s : List Char) : Option (State × List Char) := do
  let (path, name, rest) ← readPath? s
  let rest ← Text.stripStart? (if isList then "]]".toList else "]".toList) rest
  let root ← descend? path (if isList then openTables? name else openTable? name) state.root
  return (⟨root, path ++ [name]⟩, rest)

/-- Reads a name and its value. -/
def readMember? (state : State) (s : List Char) : Option (State × List Char) := do
  let (path, name, rest) ← readPath? s
  match rest with
  | '=' :: rest =>
    let (node, rest) ← readValue? nestingLimit (2 * rest.length + 2) (skipSpace rest)
    let root ← descend? state.path (addMember? path name node) state.root
    return ({ state with root }, rest)
  | _ => none

/-- Reads a line that is not blank, up to what may follow on it. -/
def readLine? (state : State) (s : List Char) : Option (State × List Char) :=
  match s with
  | '[' :: '[' :: rest => readHeader? true state rest
  | '[' :: rest => readHeader? false state rest
  | s => readMember? state s

/-- Reads the lines of a text. -/
def readLines? : (fuel : Nat) → State → List Char → Option State
  | 0, _, _ => none
  | fuel + 1, state, s =>
    match skipLines s.length s with
    | [] => some state
    | s => do
      let (state, rest) ← readLine? state s
      readLines? fuel state (← endOfLine? rest)

/-- The tree that a text is. -/
def node? (s : List Char) : Option Node := do
  let body := (Text.stripStart? ['\uFEFF'] s).getD s
  let state ← readLines? (body.length + 1) {} body
  return tableNode (memberNodes state.root)

end Launcher.Settings.Toml
