import Launcher.Command.Action
import Launcher.Files
import Launcher.Text.Blank

namespace Launcher

/-!
# Launching

* `LaunchFault` — why an action cannot be carried out.
* `Action.check` — refuses an action that cannot possibly succeed.
* `Sink` — what takes the actions in: it keeps them, checks them, or refuses them all.
-/

/-- Why an action cannot be carried out. -/
inductive LaunchFault where
  | emptyPath
  | missingPath (path : String)
  | unknownAction (id : String)
  | failed (reason : String)
deriving Repr, DecidableEq

/-- The wording of a fault. -/
def LaunchFault.message : LaunchFault → String
  | .emptyPath => "empty path"
  | .missingPath path => s!"path does not exist: {path}"
  | .unknownAction id => s!"unknown built-in action: {id}"
  | .failed reason => s!"execution failed: {reason}"

/-- Refuses a blank text. -/
def checkNotBlank (text : String) : Except LaunchFault Unit :=
  if Text.isBlankString text then .error .emptyPath else .ok ()

/-- Refuses a path that leads nowhere, blanks around it aside. -/
def checkPath (fs : Files) (path : String) : Except LaunchFault Unit :=
  let trimmed := Text.trimmed path
  if trimmed.isEmpty then .error .emptyPath
  else if fs.exists? trimmed then .ok ()
  else .error (.missingPath trimmed)

/-- Refuses an action that cannot possibly succeed. A program with a relative path is looked for
only when it is launched. -/
def Action.check (fs : Files) : Action → Except LaunchFault Unit
  | .openFile path | .openDirectory path => checkPath fs path
  | .launchProgram program =>
    if Files.isAbsolute (Text.trimmed program) then checkPath fs program else checkNotBlank program
  | .openUrl text | .runShell text | .calculator text => checkNotBlank text
  | .copyText _ | .pasteClipboard _ | .showQr _ => .ok ()
  | .builtIn id => .error (.unknownAction id)

/-- What takes the actions in. -/
inductive Sink where
  /-- Keeps every action, in order. -/
  | recording (actions : List Action)
  /-- Checks every action and leaves the launch to others. -/
  | checking
  /-- Refuses every action. -/
  | refusing (reason : String)
deriving Repr

namespace Sink

/-- Hands an action to the sink. -/
def take (fs : Files) (action : Action) : Sink → Except LaunchFault Unit × Sink
  | recording actions => (.ok (), recording (actions ++ [action]))
  | checking => (action.check fs, checking)
  | refusing reason => (.error (.failed reason), refusing reason)

/-- The actions that were kept. -/
def taken : Sink → List Action
  | recording actions => actions
  | _ => []

end Sink

end Launcher
