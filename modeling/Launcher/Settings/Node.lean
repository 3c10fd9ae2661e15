import Launcher.Decimal.Binary64
import Launcher.Settings.Basic

namespace Launcher.Settings

/-!
# Settings read off a tree

* `Node` — a tree that a text of settings stands for, whatever its notation.
* `Node.word?`, `text?`, `flag?`, `list?`, `named?` — the value of a scalar, a list or a word.
* `Node.isSound` — everything in a tree has a value.
* `Record` — the named members of a record; `Record.read?` reads one off a node.
* `ofNode?` — the settings that a tree holds; what it does not hold keeps its default.
-/

/-- A tree that a text of settings stands for. -/
inductive Node where
  | null
  | bool (value : Bool)
  /-- A whole number of a notation that tells whole numbers from others. -/
  | integer (value : Int)
  /-- A number of a notation whose numbers are doubles; `isWide` marks a whole number beyond
  sixty-four bits. -/
  | number (value : Float) (isWide : Bool)
  /-- A number that is not whole, of a notation that tells whole numbers from others. -/
  | fraction
  | text (value : String)
  /-- A number or a text that is formed well but has no value. -/
  | broken
  /-- A date, a time or both, whose parts are of no use to any setting. -/
  | moment
  | list (items : List Node)
  /-- Members by their names, and the name that the table stands for where a name alone is wanted. -/
  | table (members : List (String × Node)) (name : Option String)
deriving Inhabited

namespace Node

mutual

/-- Nothing in the tree is broken, and no whole number is beyond sixty-four bits. -/
def isSound : Node → Bool
  | .broken => false
  | .number _ isWide => !isWide
  | .list items => itemsSound items
  | .table members _ => membersSound members
  | _ => true

/-- Every item is sound. -/
def itemsSound : List Node → Bool
  | [] => true
  | n :: ns => n.isSound && itemsSound ns

/-- Every member is sound. -/
def membersSound : List (String × Node) → Bool
  | [] => true
  | (_, n) :: ns => n.isSound && membersSound ns

end

/-- The whole number next to a double on the side of zero, cut off at zero and below `2 ^ bits`. -/
def clampedWord (bits : Nat) (x : Float) : Nat :=
  match Decimal.Magnitude.ofFloat x with
  | .notANumber => 0
  | .infinite negative => if negative then 0 else 1 <<< bits - 1
  | .finite d =>
    if d.negative then 0
    else min (1 <<< bits - 1) ((d.significand <<< d.exponent.toNat) >>> (-d.exponent).toNat)

/-- A whole number below `2 ^ bits`. A double is cut to one; any other number has to be one. -/
def word? (bits : Nat) : Node → Option Nat
  | .integer n => if 0 ≤ n ∧ n < (1 <<< bits : Nat) then some n.toNat else none
  | .number x _ => some (clampedWord bits x)
  | _ => none

/-- A text. -/
def text? : Node → Option String
  | .text s => some s
  | _ => none

/-- A truth value. -/
def flag? : Node → Option Bool
  | .bool b => some b
  | _ => none

/-- A list of values of one kind. -/
def list? {α : Type} (read? : Node → Option α) : Node → Option (List α)
  | .list items => items.mapM read?
  | _ => none

/-- A value, or nothing for null. -/
def optional? {α : Type} (read? : Node → Option α) : Node → Option (Option α)
  | .null => some none
  | n => (read? n).map some

/-- The value of a name, which is a text or what a table stands for. -/
def named? {α : Type} (values : List (String × α)) : Node → Option α
  | .text s => values.lookup s
  | .table _ (some s) => values.lookup s
  | _ => none

end Node

/-! ### Records -/

/-- The named members of a record, in order. -/
structure Record (α : Type) where
  names : List String
  /-- Replaces the member of a name. -/
  set? : String → Node → α → Option α

namespace Record

variable {α : Type}

/-- Replaces the members that are listed; those of other names only have to be sound. -/
def setAll? (r : Record α) : List (String × Node) → α → Option α
  | [], x => some x
  | (name, node) :: rest, x =>
    if r.names.contains name then do r.setAll? rest (← r.set? name node x)
    else if node.isSound then r.setAll? rest x
    else none

/-- No member of the record is listed twice. -/
def isOnce (r : Record α) (names : List String) : Bool :=
  r.names.all fun name => names.count name ≤ 1

/-- Reads a record: a table of some of its members, or a list that begins with the first of them.
Members that are missing keep the values of `start`; a moment holds none. -/
def read? (r : Record α) (start : α) : Node → Option α
  | .table members _ => if r.isOnce (members.map (·.1)) then r.setAll? members start else none
  | .list items => r.setAll? (r.names.zip items) start
  | .moment => some start
  | _ => none

end Record

/-! ### The records of the settings -/

/-- A group of commands. -/
def groupRecord : Record CommandGroup where
  names := ["id", "name"]
  set? name node g :=
    match name with
    | "id" => node.text?.map fun id => { g with id }
    | _ => node.text?.map fun name => { g with name }

/-- A command. -/
def commandRecord : Record Command where
  names := ["id", "keyword", "display_name", "type", "path_template", "param_placeholder",
    "group_id", "enabled", "hotkey"]
  set? name node c :=
    match name with
    | "id" => node.text?.map fun id => { c with id }
    | "keyword" => node.text?.map fun keyword => { c with keyword }
    | "display_name" => node.text?.map fun displayName => { c with displayName }
    | "type" => (node.named? CommandKind.words).map fun kind => { c with kind }
    | "path_template" => node.text?.map fun template => { c with template }
    | "param_placeholder" => node.text?.map fun placeholder => { c with placeholder }
    | "group_id" => node.text?.map fun groupId => { c with groupId }
    | "enabled" => node.flag?.map fun enabled => { c with enabled }
    | _ => (node.optional? Node.text?).map fun hotkey => { c with hotkey }

/-- The settings. -/
def record : Record Settings where
  names := ["max_results", "debounce_ms", "qr_threshold", "currency_api_key", "currency_base",
    "rate_cache_ttl_secs", "rate_grace_secs", "web_search_provider", "web_search_custom_template",
    "file_roots", "file_scan_limit", "file_scan_depth", "app_roots", "app_scan_limit",
    "clipboard_enabled", "clipboard_exclude_sensitive_patterns", "recent_limit", "groups",
    "commands", "history_db_path"]
  set? name node s :=
    let long? := (node.word? 64).map UInt64.ofNat
    let texts? := node.list? Node.text?
    match name with
    | "max_results" => (node.word? 16).map fun n => { s with maxResults := UInt16.ofNat n }
    | "debounce_ms" => long?.map fun debounceMs => { s with debounceMs }
    | "qr_threshold" => long?.map fun qrThreshold => { s with qrThreshold }
    | "currency_api_key" => node.text?.map fun currencyApiKey => { s with currencyApiKey }
    | "currency_base" => node.text?.map fun currencyBase => { s with currencyBase }
    | "rate_cache_ttl_secs" => long?.map fun rateTtlSecs => { s with rateTtlSecs }
    | "rate_grace_secs" => long?.map fun rateGraceSecs => { s with rateGraceSecs }
    | "web_search_provider" =>
      (node.named? WebSearch.words).map fun webSearch => { s with webSearch }
    | "web_search_custom_template" =>
      node.text?.map fun webSearchTemplate => { s with webSearchTemplate }
    | "file_roots" => texts?.map fun fileRoots => { s with fileRoots }
    | "file_scan_limit" => long?.map fun fileScanLimit => { s with fileScanLimit }
    | "file_scan_depth" => long?.map fun fileScanDepth => { s with fileScanDepth }
    | "app_roots" => texts?.map fun appRoots => { s with appRoots }
    | "app_scan_limit" => long?.map fun appScanLimit => { s with appScanLimit }
    | "clipboard_enabled" => node.flag?.map fun clipboardEnabled => { s with clipboardEnabled }
    | "clipboard_exclude_sensitive_patterns" =>
      texts?.map fun sensitivePatterns => { s with sensitivePatterns }
    | "recent_limit" => long?.map fun recentLimit => { s with recentLimit }
    | "groups" => (node.list? (groupRecord.read? {})).map fun groups => { s with groups }
    | "commands" => (node.list? (commandRecord.read? {})).map fun commands => { s with commands }
    | _ => node.text?.map fun historyPath => { s with historyPath }

/-- The settings that a tree holds; what it does not hold keeps the value of `start`. -/
def ofNode? (start : Settings) (node : Node) : Option Settings :=
  record.read? start node

end Launcher.Settings
