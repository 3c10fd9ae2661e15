import Launcher.Command.BuiltIn
import Launcher.Match.Basic
import Launcher.Settings.Basic

namespace Launcher

/-!
# Commands and items that match a query

* `matchCommands` — the enabled commands whose title or keyword matches, or whose keyword stands
  before a parameter.
* `matchRows`, `matchBuiltIns` — the built-in commands whose title or one of whose keywords matches.
* `matchItems` — the items whose title matches.
-/

/-- The group of commands without a group of their own. -/
def commandsLabel : String := "Commands"

/-- The group of built-in commands. -/
def builtInsLabel : String := "Actions"

/-- The group of applications. -/
def applicationsLabel : String := "Applications"

/-- The group of files and folders. -/
def filesLabel : String := "Files"

/-! ### Commands -/

/-- A keyword and the trimmed parameter after it, if a trimmed query holds both. -/
def inlineParam? (query : List Char) : Option (List Char × List Char) := do
  let (head, tail) ← Text.splitAtBlank? query
  let param := Text.trim tail
  if param.isEmpty then none else some (head, param)

/-- The result for a command with a parameter. -/
def Command.hit (command : Command) (group param : String) (score : Float) (offsets : List Nat) :
    Hit :=
  let action := command.action param
  let hit : Hit := {
    title := command.title, subtitle := action.target, group, kind := .customCommand, action
    score }
  (hit.withHighlights offsets).withCommand command

/-- The result for a command that a trimmed query matches. A keyword before a parameter is an exact
match if the command accepts one. -/
def matchCommand? (settings : Settings) (query : String) (command : Command) : Option Hit :=
  let group := (settings.groupName? command.groupId).getD commandsLabel
  let inline? := (inlineParam? query.toList).filter fun (head, _) =>
    command.acceptsParam && Text.equalIgnoringCase command.keyword (String.ofList head)
  match inline? with
  | some (_, param) => some (command.hit group (String.ofList param) Match.exactScore [])
  | none =>
    (bestMatch? query command.title [command.keyword]).map fun found =>
      command.hit group "" found.score found.offsets

/-- The results for the enabled commands that a query matches. -/
def matchCommands (settings : Settings) (query : String) : List Hit :=
  let trimmed := Text.trimmed query
  if trimmed.isEmpty then []
  else settings.enabledCommands.filterMap (matchCommand? settings trimmed)

/-! ### Built-in commands and items -/

/-- The result for a built-in command that a query matches. -/
def matchRow? (query : String) (row : BuiltIn.Row) : Option Hit :=
  (bestMatch? query row.title row.keywords).map fun found =>
    let hit : Hit := {
      title := row.title, subtitle := row.subtitle, group := builtInsLabel,
      kind := .builtInCommand, action := .builtIn row.id, score := found.score }
    hit.withHighlights found.offsets

/-- The results for the rows of built-in commands that a query matches. -/
def matchRows (query : String) (rows : List BuiltIn.Row) : List Hit :=
  rows.filterMap (matchRow? query)

/-- The results for the built-in commands that a query matches. -/
def matchBuiltIns (query : String) (commands : List BuiltIn) : List Hit :=
  matchRows query (commands.map BuiltIn.row)

/-- The group of an item. -/
def Item.label (item : Item) : String :=
  match item.hitKind with
  | .application => applicationsLabel
  | _ => filesLabel

/-- The result for an item whose title a query matches. -/
def matchItem? (query : String) (item : Item) : Option Hit :=
  (matchText? query item.title).map fun found =>
    let hit : Hit := {
      title := item.title, subtitle := item.path, group := item.label, kind := item.hitKind,
      action := item.action, score := found.score }
    hit.withHighlights found.offsets

/-- The results for the items whose title a query matches. -/
def matchItems (query : String) (items : List Item) : List Hit :=
  items.filterMap (matchItem? query)

end Launcher
