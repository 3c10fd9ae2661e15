import Launcher.Command.Action
import Launcher.Text.Blank
import Launcher.Text.Percent
import Launcher.Text.Split

namespace Launcher

/-!
# Commands

* `Command` — a configured command: a keyword, a template and what its target is used for.
* `Command.acceptsParam` — its template holds the placeholder of a parameter.
* `Command.action` — the action that it stands for with a given parameter.
-/

/-- What the target of a command is used for. -/
inductive CommandKind where
  | url
  | program
  | shell
  | directory
  | calculator
deriving Repr, DecidableEq

/-- A configured command. -/
structure Command where
  id : String := ""
  keyword : String := ""
  displayName : String := ""
  kind : CommandKind := .url
  template : String := ""
  placeholder : String := "\x7bquery\x7d"
  groupId : String := ""
  enabled : Bool := true
  hotkey : Option String := none
deriving Repr, DecidableEq

/-- The kinds of command by their words. -/
def CommandKind.words : List (String × CommandKind) :=
  [("url", .url), ("program", .program), ("shell", .shell), ("directory", .directory),
   ("calculator", .calculator)]

/-- The word for a kind of command. -/
def CommandKind.name : CommandKind → String
  | .url => "url"
  | .program => "program"
  | .shell => "shell"
  | .directory => "directory"
  | .calculator => "calculator"

/-- The action on a target. -/
def CommandKind.action (kind : CommandKind) (target : String) : Action :=
  match kind with
  | .url => .openUrl target
  | .program => .launchProgram target
  | .shell => .runShell target
  | .directory => .openDirectory target
  | .calculator => .calculator target

namespace Command

/-- A command that is identified by its keyword. -/
def named (keyword displayName : String) (kind : CommandKind) (template : String) : Command :=
  { id := keyword, keyword, displayName, kind, template }

/-- The template holds the placeholder of a parameter. -/
def acceptsParam (c : Command) : Bool :=
  !c.placeholder.isEmpty && Text.isInfix c.placeholder.toList c.template.toList

/-- How the command is shown: by its display name, or by its keyword if that is blank. -/
def title (c : Command) : String :=
  if Text.isBlankString c.displayName then c.keyword else c.displayName

/-! ### Parameters -/

/-- How a parameter is written in the template: trimmed, and percent-encoded in a URL. -/
def paramText (c : Command) (param : String) : String :=
  let trimmed := Text.trimmed param
  match c.kind with
  | .url => Text.Percent.encoded false trimmed
  | _ => trimmed

/-- The template with each placeholder replaced by the parameter. A command that accepts none has
its template as target. -/
def resolvedTarget (c : Command) (param : String) : String :=
  if c.acceptsParam then Text.replaceAllIn c.placeholder (c.paramText param) c.template
  else c.template

/-- The action that the command stands for with a parameter. -/
def action (c : Command) (param : String) : Action :=
  c.kind.action (c.resolvedTarget param)

end Command

end Launcher
