import Launcher.Settings.Basic
import Launcher.Settings.Hotkey

namespace Launcher.Settings

/-!
# Valid settings

* `Defect` — what can be wrong with settings.
* `checkMaxResults`, `checkDebounce`, `checkCommand` — the rules for single settings.
* `check` — all rules, one after the other; the first that is broken is told.
-/

/-- What can be wrong with settings. -/
inductive Defect where
  | maxResults
  | debounce
  | currencyBase (text : String)
  | rateTtl
  | webSearchTemplate
  | emptyKeyword (id : String)
  | hotkey (keyword : String) (fault : Hotkey.Fault)
deriving Repr, DecidableEq

/-- The smallest and the largest number of results. -/
def maxResultsRange : Nat × Nat := (5, 100)

/-- The shortest and the longest debounce time. -/
def debounceRange : Nat × Nat := (0, 1000)

/-- The wording of a defect. -/
def Defect.message : Defect → String
  | .maxResults => s!"Max results must be between {maxResultsRange.1} and {maxResultsRange.2}."
  | .debounce => s!"Debounce must be between {debounceRange.1} and {debounceRange.2} ms."
  | .currencyBase text => s!"currency_base must be a three-letter code, got '{text}'"
  | .rateTtl => "rate_cache_ttl_secs must be positive"
  | .webSearchTemplate => "web_search_custom_template must contain \x7bquery\x7d"
  | .emptyKeyword id => s!"command '{id}' has an empty keyword"
  | .hotkey keyword fault => s!"command '{keyword}' hotkey: {fault.message}"

/-- A number is neither below nor above a range. -/
def isWithin (range : Nat × Nat) (n : Nat) : Bool :=
  range.1 ≤ n && n ≤ range.2

/-- The rule for the number of results. -/
def checkMaxResults (n : Nat) : Except Defect Unit :=
  if isWithin maxResultsRange n then .ok () else .error .maxResults

/-- The rule for the debounce time. -/
def checkDebounce (n : Nat) : Except Defect Unit :=
  if isWithin debounceRange n then .ok () else .error .debounce

/-- The rule for the base currency: three bytes, blanks around them aside. -/
def checkCurrencyBase (text : String) : Except Defect Unit :=
  if Text.Utf8.size (Text.trim text.toList) = 3 then .ok () else .error (.currencyBase text)

/-- The rule for the address of a web search of one's own. -/
def checkWebSearch (provider : WebSearch) (template : String) : Except Defect Unit :=
  if provider = .custom ∧ !Text.isInfix "\x7bquery\x7d".toList template.toList then
    .error .webSearchTemplate
  else .ok ()

/-- The rule for a command. -/
def checkCommand (c : Command) : Except Defect Unit :=
  if Text.isBlankString c.keyword then .error (.emptyKeyword c.id)
  else
    match c.hotkey with
    | none => .ok ()
    | some hotkey =>
      match Hotkey.parse hotkey.toList with
      | .ok _ => .ok ()
      | .error fault => .error (.hotkey c.keyword fault)

/-- The rule for every command. -/
def checkCommands : List Command → Except Defect Unit
  | [] => .ok ()
  | c :: cs => do
    checkCommand c
    checkCommands cs

/-- All rules, one after the other. -/
def check (s : Settings) : Except Defect Unit := do
  checkMaxResults s.maxResults.toNat
  checkDebounce s.debounceMs.toNat
  checkCurrencyBase s.currencyBase
  if s.rateTtlSecs = 0 then .error .rateTtl
  checkWebSearch s.webSearch s.webSearchTemplate
  checkCommands s.commands

end Launcher.Settings
