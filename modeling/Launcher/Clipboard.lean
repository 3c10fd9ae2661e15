import Launcher.Hit
import Launcher.Match.Basic

namespace Launcher

/-!
# Clipboard history

* `Clipboard` — the texts that were copied, newest first.
* `Clipboard.capture` — takes a text in unless it is empty, sensitive or a repetition.
* `Clipboard.search` — the entries that match a query.
-/

/-- A text that was copied. -/
structure ClipboardEntry where
  id : String
  text : String
  capturedAt : Int
deriving Repr, DecidableEq

/-- The texts that were copied, newest first. -/
structure Clipboard where
  /-- Texts with one of these parts are never kept. -/
  patterns : List String := []
  entries : List ClipboardEntry := []
  /-- The number in the identity of the next entry. -/
  nextId : Nat := 1
deriving Repr, DecidableEq

namespace Clipboard

/-- The number of entries that are kept. -/
def capacity : Nat := 500

/-- The number of characters of an entry that are shown. -/
def previewLength : Nat := 96

/-- A copied text without zero and return characters, trimmed. -/
def normalize (raw : String) : String :=
  String.ofList (Text.trim (raw.toList.filter fun c => c != '\x00' && c != '\r'))

/-- A text holds one of the trimmed patterns that are not blank, without regard to the case of ASCII
letters. -/
def isSensitive (patterns : List String) (text : String) : Bool :=
  let lowered := Text.lower text.toList
  patterns.any fun pattern =>
    let part := Text.lower (Text.trim pattern.toList)
    !part.isEmpty && Text.isInfix part lowered

/-- A normalized text is taken in: it is not empty, not sensitive and not the newest entry again. -/
def accepts (c : Clipboard) (text : String) : Bool :=
  !text.isEmpty && !isSensitive c.patterns text && !(c.entries.head?.any (·.text == text))

/-- Takes a copied text in at a time, and tells whether it was. -/
def capture (c : Clipboard) (raw : String) (time : Int) : Bool × Clipboard :=
  let text := normalize raw
  if c.accepts text then
    let entry := ⟨s!"clip-{c.nextId}", text, time⟩
    (true, { c with entries := (entry :: c.entries).take capacity, nextId := c.nextId + 1 })
  else (false, c)

/-- Forgets all entries. -/
def clear (c : Clipboard) : Clipboard :=
  { c with entries := [] }

/-! ### Search -/

/-- The beginning of an entry on one line. -/
def preview (text : String) : String :=
  let line := Text.trim (text.toList.map fun c => if c = '\n' then ' ' else c)
  String.ofList (line.take previewLength)

/-- How long ago something was, in the largest whole unit. -/
def ageText (captured now : Int) : String :=
  let age := max Int64.minValue.toInt (min Int64.maxValue.toInt (now - captured))
  if age < 60 then "just now"
  else if age < 3600 then s!"{age / 60}m ago"
  else if age < 86400 then s!"{age / 3600}h ago"
  else s!"{age / 86400}d ago"

/-- The result for an entry whose beginning a query matches. -/
def entryHit? (query : String) (now : Int) (entry : ClipboardEntry) : Option Hit :=
  let shown := preview entry.text
  (matchText? query shown).map fun found =>
    let hit : Hit := {
      title := shown, subtitle := "Copied " ++ ageText entry.capturedAt now, group := "Clipboard",
      kind := .clipboardEntry, action := .pasteClipboard entry.text, score := found.score }
    hit.withHighlights found.offsets

/-- The results for the entries that a query matches, newest first. -/
def search (c : Clipboard) (query : String) (now : Int) : List Hit :=
  c.entries.filterMap (entryHit? query now)

end Clipboard

end Launcher
