import Launcher.Hit

namespace Launcher

/-!
# Built-in commands

* `BuiltIn` — the four commands that the launcher carries out itself.
* `BuiltIn.id`, `title`, `subtitle`, `keywords` — how each is identified, shown and found.
* `BuiltIn.Row` — all of this together; `BuiltIn.row` is that of a command.
* `BuiltIn.ofId?` — the command with an identity.
-/

/-- A command that the launcher carries out itself. -/
inductive BuiltIn where
  | openLogs
  | rescanFiles
  | clearClipboard
  | openSettings
deriving Repr, DecidableEq

namespace BuiltIn

/-- The built-in commands, in the order in which they are matched. -/
def all : List BuiltIn :=
  [openLogs, rescanFiles, clearClipboard, openSettings]

/-- The identity of a command. -/
def id : BuiltIn → String
  | openLogs => "__quickbar_action_open_logs__"
  | rescanFiles => "__quickbar_action_rescan_files__"
  | clearClipboard => "__quickbar_action_clear_clipboard__"
  | openSettings => "__quickbar_action_open_config__"

/-- How a command is shown. -/
def title : BuiltIn → String
  | openLogs => "Open Logs Folder"
  | rescanFiles => "Rescan Files"
  | clearClipboard => "Clear Clipboard History"
  | openSettings => "Open Config"

/-- What a command does, in a few words. -/
def subtitle : BuiltIn → String
  | openLogs => "Open the QuickBar logs directory"
  | rescanFiles => "Refresh applications and files on the next search"
  | clearClipboard => "Delete local clipboard history entries"
  | openSettings => "Open the QuickBar configuration file"

/-- Further words that find a command. -/
def keywords : BuiltIn → List String
  | openLogs => ["logs", "log", "debug"]
  | rescanFiles => ["rescan", "reindex", "refresh"]
  | clearClipboard => ["clipboard", "clear", "history"]
  | openSettings => ["config", "settings", "preferences"]

/-- How a command is identified, shown and found. -/
structure Row where
  id : String
  title : String
  subtitle : String
  keywords : List String
deriving Repr, DecidableEq

/-- The row of a command. -/
def row (b : BuiltIn) : Row :=
  ⟨b.id, b.title, b.subtitle, b.keywords⟩

/-- The command with an identity. -/
def ofId? (id : String) : Option BuiltIn :=
  all.find? (·.id == id)

end BuiltIn

end Launcher
