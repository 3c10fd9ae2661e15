import Launcher.Decimal.Reader
import Launcher.Text.Blank

namespace Launcher

/-!
# Hotkeys

* `Modifier`, `Key`, `Hotkey` — at least one modifier and one key.
* `Hotkey.parse` — reads a hotkey off a text in which its parts stand between plus signs.
* `Hotkey.text` — the one text by which a hotkey is written.
-/

/-- A key that is held down with another. -/
inductive Modifier where
  | ctrl
  | alt
  | shift
  | super
deriving Repr, DecidableEq

/-- A key that is struck. -/
inductive Key where
  | space
  | function (n : Nat)
  | symbol (c : Char)
deriving Repr, DecidableEq

/-- Some modifiers and a key. -/
structure Hotkey where
  modifiers : List Modifier
  key : Key
deriving Repr, DecidableEq

namespace Modifier

/-- The modifiers, in the order in which they are written. -/
def all : List Modifier :=
  [ctrl, alt, shift, super]

/-- How a modifier is written. -/
def name : Modifier → String
  | ctrl => "Ctrl"
  | alt => "Alt"
  | shift => "Shift"
  | super => "Meta"

/-- The words for modifiers, in lower case. -/
def words : List (String × Modifier) :=
  [("ctrl", ctrl), ("control", ctrl), ("alt", alt), ("option", alt), ("shift", shift),
   ("win", super), ("windows", super), ("meta", super), ("super", super), ("cmd", super)]

/-- The modifier that a word stands for, in any case of letters. -/
def ofWord? (word : List Char) : Option Modifier :=
  (words.find? fun (w, _) => w.toList == Text.lower word).map (·.2)

end Modifier

namespace Hotkey

/-- Why a text is no hotkey. -/
inductive Fault where
  | incomplete
  | unknownModifier (word : String)
  | functionRange
  | unknownKey
  | reserved (hotkey : String)
deriving Repr, DecidableEq

/-- The wording of a fault. -/
def Fault.message : Fault → String
  | .incomplete => "Hotkey must include at least one modifier and one key."
  | .unknownModifier word => s!"Unsupported modifier '{word}'. Use Ctrl, Alt, Shift, or Meta."
  | .functionRange => "Function key must be between F1 and F24."
  | .unknownKey => "Key must be A-Z, 0-9, Space, or F1-F24."
  | .reserved hotkey => s!"Hotkey '{hotkey}' is reserved by the desktop. Choose a different one."

/-! ### Writing -/

/-- How a key is written. -/
def keyText : Key → List Char
  | .space => "Space".toList
  | .function n => 'F' :: Decimal.digits n
  | .symbol c => [c]

/-- A hotkey: its modifiers in their order and its key, with plus signs between them. -/
def text (h : Hotkey) : List Char :=
  Text.joinWith ['+'] (h.modifiers.map (·.name.toList) ++ [keyText h.key])

/-- The hotkeys that the desktop uses itself. -/
def reservedTexts : List String :=
  ["Alt+Tab", "Alt+F4", "Ctrl+Alt+Delete", "Alt+Space", "Meta+L", "Meta+Tab"]

/-- The desktop uses the hotkey itself. -/
def isReserved (h : Hotkey) : Bool :=
  reservedTexts.any (·.toList == h.text)

/-! ### Reading -/

/-- The key of a single letter or digit in upper case. -/
def symbolKey : List Char → Except Fault Key
  | [c] => if Text.isAlphanumeric c then .ok (.symbol c) else .error .unknownKey
  | _ => .error .unknownKey

/-- Reads a key: the word for the space bar, the number of a function key below 256 after an `F`, or
a letter or digit. -/
def parseKey (s : List Char) : Except Fault Key :=
  let upper := s.map Text.upperChar
  if upper = "SPACE".toList then .ok .space
  else
    match upper with
    | 'F' :: rest =>
      match Decimal.readWord? 8 rest with
      | some n => if 1 ≤ n ∧ n ≤ 24 then .ok (.function n) else .error .functionRange
      | none => symbolKey upper
    | _ => symbolKey upper

/-- Reads the words for modifiers. -/
def parseModifiers : List (List Char) → Except Fault (List Modifier)
  | [] => .ok []
  | word :: rest =>
    match Modifier.ofWord? word with
    | none => .error (.unknownModifier (String.ofList word))
    | some m => (parseModifiers rest).map (m :: ·)

/-- The trimmed parts between plus signs that are not blank. -/
def parts (s : List Char) : List (List Char) :=
  ((Text.splitOn ['+'] s).map Text.trim).filter (!·.isEmpty)

/-- The hotkey of some modifiers, in any order and with repetitions, and a key. -/
def ofParts (modifiers : List Modifier) (key : Key) : Hotkey :=
  ⟨Modifier.all.filter (modifiers.contains ·), key⟩

/-- Refuses a hotkey that the desktop uses itself. -/
def unlessReserved (h : Hotkey) : Except Fault Hotkey :=
  if h.isReserved then .error (.reserved (String.ofList h.text)) else .ok h

/-- Reads a hotkey: at least one modifier, and its key last. -/
def parse (s : List Char) : Except Fault Hotkey :=
  let ps := parts s
  match ps.getLast? with
  | none => .error .incomplete
  | some last =>
    if ps.length < 2 then .error .incomplete
    else do
      let key ← parseKey last
      let modifiers ← parseModifiers ps.dropLast
      unlessReserved (ofParts modifiers key)

end Hotkey

end Launcher
