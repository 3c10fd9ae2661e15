import Launcher.Command.Basic
import Launcher.Item

namespace Launcher

/-!
# Results of a search

* `HitKind` — where a result comes from; `HitKind.priority` breaks ties between equal scores.
* `Hit` — a result: its texts, its action, its score and the characters of its title to highlight.
* `Hit.item?` — the application, file or folder behind a result.
* `Notice` — something that the user is told beside the results.
-/

/-- Where a result comes from. -/
inductive HitKind where
  | customCommand
  | builtInCommand
  | application
  | file
  | calculator
  | unitConversion
  | currencyConversion
  | colorConversion
  | textTool
  | clipboardEntry
deriving Repr, DecidableEq

namespace HitKind

/-- The rank of a kind among equal scores; the smaller comes first. -/
def priority : HitKind → Nat
  | customCommand => 0
  | builtInCommand => 1
  | application => 2
  | file => 3
  | calculator => 4
  | unitConversion => 5
  | currencyConversion => 6
  | colorConversion => 7
  | textTool => 8
  | clipboardEntry => 9

/-- The kinds of result by their words, in the order of their priority. -/
def words : List (String × HitKind) :=
  [("custom_command", customCommand), ("built_in_command", builtInCommand),
   ("application", application), ("file", file), ("calculator", calculator),
   ("unit_conversion", unitConversion), ("currency_conversion", currencyConversion),
   ("color_conversion", colorConversion), ("text_tool", textTool),
   ("clipboard_entry", clipboardEntry)]

/-- The word for a kind of result. -/
def name : HitKind → String
  | customCommand => "custom_command"
  | builtInCommand => "built_in_command"
  | application => "application"
  | file => "file"
  | calculator => "calculator"
  | unitConversion => "unit_conversion"
  | currencyConversion => "currency_conversion"
  | colorConversion => "color_conversion"
  | textTool => "text_tool"
  | clipboardEntry => "clipboard_entry"

end HitKind

/-- A result of a search. -/
structure Hit where
  title : String
  subtitle : String
  group : String
  kind : HitKind
  action : Action
  score : Float
  /-- The offsets of the characters of the title to highlight, in increasing order. -/
  highlights : List Nat := []
  /-- The command that the result was built from. -/
  command : Option Command := none
deriving Repr

/-! ### Ordered sets of offsets -/

/-- Puts an offset where it belongs in an increasing list. -/
def insertOffset (n : Nat) : List Nat → List Nat
  | [] => [n]
  | m :: ms => if n < m then n :: m :: ms else if n = m then m :: ms else m :: insertOffset n ms

/-- The offsets in increasing order, each once. -/
def sortOffsets (offsets : List Nat) : List Nat :=
  offsets.foldr insertOffset []

namespace Hit

/-- The result with the offsets highlighted that lie in its title. -/
def withHighlights (hit : Hit) (offsets : List Nat) : Hit :=
  { hit with highlights := sortOffsets (offsets.filter (· < hit.title.length)) }

/-- The result as one built from a command. -/
def withCommand (hit : Hit) (command : Command) : Hit :=
  { hit with command := some command }

/-- The keyword of the command that the result was built from. -/
def keyword (hit : Hit) : Option String :=
  hit.command.map (·.keyword)

/-- The result was built from a command that accepts a parameter. -/
def acceptsParam (hit : Hit) : Bool :=
  hit.command.any (·.acceptsParam)

/-- The application, file or folder behind a result. -/
def item? (hit : Hit) : Option Item :=
  match hit.kind, hit.action with
  | .application, .launchProgram path => some (.atPath .application hit.title path)
  | .file, .openFile path => some (.atPath .file hit.title path)
  | .file, .openDirectory path => some (.atPath .folder hit.title path)
  | _, _ => none

end Hit

/-- The kind of the results that stand for an item. -/
def Item.hitKind (item : Item) : HitKind :=
  match item.kind with
  | .application => .application
  | .file | .folder => .file

/-! ### Notices -/

/-- Something that the user is told beside the results. -/
inductive Notice where
  | ratesNotConfigured
  | ratesUnavailable (reason : String)
deriving Repr, DecidableEq

/-- The wording of a notice. -/
def Notice.message : Notice → String
  | .ratesNotConfigured => "Currency conversion needs an exchange-rate API key in the config."
  | .ratesUnavailable reason => s!"Exchange rates are unavailable right now: {reason}"

/-- The word for a kind of notice. -/
def Notice.name : Notice → String
  | .ratesNotConfigured => "currency_configuration_missing"
  | .ratesUnavailable _ => "currency_unavailable"

end Launcher
