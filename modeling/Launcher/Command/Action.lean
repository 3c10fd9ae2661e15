namespace Launcher

/-!
# Actions

* `Action` — what choosing a result does, with the text that it does it to.
* `Action.target` — that text.
* `Action.name` — the word for the kind of action.
-/

/-- What choosing a result does. -/
inductive Action where
  | openUrl (target : String)
  | launchProgram (target : String)
  | runShell (target : String)
  | openDirectory (target : String)
  | openFile (target : String)
  | calculator (target : String)
  | copyText (target : String)
  | pasteClipboard (target : String)
  | showQr (target : String)
  | builtIn (target : String)
deriving Repr, DecidableEq

namespace Action

/-- The text that the action is about. -/
def target : Action → String
  | openUrl t | launchProgram t | runShell t | openDirectory t | openFile t | calculator t
  | copyText t | pasteClipboard t | showQr t | builtIn t => t

/-- The kinds of action by their words. -/
def kinds : List (String × (String → Action)) :=
  [("open_url", openUrl), ("launch_program", launchProgram), ("run_shell", runShell),
   ("open_directory", openDirectory), ("open_file", openFile), ("calculator", calculator),
   ("copy_text", copyText), ("paste_clipboard", pasteClipboard), ("show_qr", showQr),
   ("built_in", builtIn)]

/-- The word for the kind of an action. -/
def name : Action → String
  | openUrl _ => "open_url"
  | launchProgram _ => "launch_program"
  | runShell _ => "run_shell"
  | openDirectory _ => "open_directory"
  | openFile _ => "open_file"
  | calculator _ => "calculator"
  | copyText _ => "copy_text"
  | pasteClipboard _ => "paste_clipboard"
  | showQr _ => "show_qr"
  | builtIn _ => "built_in"

end Action

end Launcher
