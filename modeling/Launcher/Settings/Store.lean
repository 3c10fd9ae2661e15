import Launcher.Files
import Launcher.Json.Value
import Launcher.Settings.Json5
import Launcher.Settings.Toml
import Launcher.Settings.Validity

namespace Launcher.Settings

/-!
# Settings in a file

* `toJson` — the settings as they are written.
* `parse?` — reads a text of settings, in TOML if its file is named so, otherwise in JSON5.
* `load` — the settings in a file, which must be valid; without a file, the defaults.
* `save` — writes the settings where they belong.
-/

/-- Why settings could not be read or written. -/
inductive StoreFault where
  | unreadable (path : String)
  | unwritable (path : String)
  | malformed (path : String)
  | invalid (defect : Defect)
deriving Repr, DecidableEq

/-! ### Writing -/

open Json in
/-- A list of texts as JSON. -/
def textsJson (texts : List String) : Value :=
  .array (texts.map .string)

open Json in
/-- A group of commands as JSON. -/
def groupJson (g : CommandGroup) : Value :=
  .object [("id", .string g.id), ("name", .string g.name)]

open Json in
/-- A command as JSON. -/
def commandJson (c : Command) : Value :=
  .object [("id", .string c.id), ("keyword", .string c.keyword),
    ("display_name", .string c.displayName), ("type", .string c.kind.name),
    ("path_template", .string c.template), ("param_placeholder", .string c.placeholder),
    ("group_id", .string c.groupId), ("enabled", .bool c.enabled),
    ("hotkey", c.hotkey.elim .null .string)]

open Json in
/-- The settings as JSON; where they are kept is not among them. -/
def toJson (s : Settings) : Value :=
  let long := fun (n : UInt64) => Value.int n.toNat
  .object [("max_results", .int s.maxResults.toNat), ("debounce_ms", long s.debounceMs),
    ("qr_threshold", long s.qrThreshold), ("currency_api_key", .string s.currencyApiKey),
    ("currency_base", .string s.currencyBase), ("rate_cache_ttl_secs", long s.rateTtlSecs),
    ("rate_grace_secs", long s.rateGraceSecs), ("web_search_provider", .string s.webSearch.name),
    ("web_search_custom_template", .string s.webSearchTemplate),
    ("file_roots", textsJson s.fileRoots), ("file_scan_limit", long s.fileScanLimit),
    ("file_scan_depth", long s.fileScanDepth), ("app_roots", textsJson s.appRoots),
    ("app_scan_limit", long s.appScanLimit), ("clipboard_enabled", .bool s.clipboardEnabled),
    ("clipboard_exclude_sensitive_patterns", textsJson s.sensitivePatterns),
    ("recent_limit", long s.recentLimit), ("groups", .array (s.groups.map groupJson)),
    ("commands", .array (s.commands.map commandJson)), ("history_db_path", .string s.historyPath)]

/-- The text of a settings file. -/
def text (s : Settings) : String :=
  s.toJson.pretty

/-! ### Reading -/

/-- What follows the last point in the last name of a path, if there is something before it. -/
def extension? (path : String) : Option String := do
  let name ← (Files.names path).getLast?
  if name = ".." then none
  let (stem, ext) ← Text.cutAtLast? ['.'] name.toList
  if stem.isEmpty then none else some (String.ofList ext)

/-- A settings file with this path is written in TOML. -/
def isTomlPath (path : String) : Bool :=
  (extension? path).any (Text.equalIgnoringCase · "toml")

/-- The settings that a text in the notation of its path holds. -/
def parse? (env : Environment) (path text : String) : Option Settings := do
  let node ← if isTomlPath path then Toml.node? text.toList else Json5.node? text.toList
  ofNode? (defaults env) node

/-- The settings in a file. -/
def load (env : Environment) (fs : Files) (path : String) : Except StoreFault Settings :=
  if !fs.exists? path then .ok { defaults env with path }
  else
    match fs.text? path with
    | none => .error (.unreadable path)
    | some text =>
      match parse? env path text with
      | none => .error (.malformed path)
      | some s => (check s).mapError .invalid |>.map fun _ => { s with path }

/-- Writes the settings into their file; its folder is made if there is none. -/
def save (fs : Files) (s : Settings) : Except StoreFault Files :=
  match (fs.makeParent? s.path).bind (·.write? s.path (.text s.text)) with
  | some fs => .ok fs
  | none => .error (.unwritable s.path)

end Launcher.Settings
