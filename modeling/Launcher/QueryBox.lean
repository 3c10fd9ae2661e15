import Launcher.Match.Candidates

namespace Launcher

/-!
# The query box

* `QueryBox` — what stands in the box, and the command whose parameter is being typed.
* `QueryBox.Reply` — what an event asks for: a search, one result to show, an action, or nothing.
* `QueryBox.type`, `tab`, `escape`, `backspace`, `setParam`, `enter` — the events.

In parameter mode the text is the keyword of the command, a space and the parameter.
-/

/-- What the text in the box is: a query, or a command with its parameter. -/
inductive QueryMode where
  | normal
  | param
deriving Repr, DecidableEq

/-- What stands in the query box. -/
structure QueryBox where
  text : String := ""
  mode : QueryMode := .normal
  /-- The command whose parameter is being typed. -/
  active : Option Command := none
  param : String := ""
deriving Repr, DecidableEq

namespace QueryBox

/-- What an event asks for. -/
inductive Reply where
  | search (query : String)
  | render (hit : Hit)
  | execute (action : Action)
  | unchanged
deriving Repr

/-- A parameter is being typed. -/
def isParamMode (b : QueryBox) : Bool :=
  b.mode == .param

/-- The keyword of the command whose parameter is being typed. -/
def keyword? (b : QueryBox) : Option String :=
  b.active.map (·.keyword)

/-- What stands before the parameter in the text. -/
def lead (b : QueryBox) : String :=
  b.keyword?.elim "" (· ++ " ")

/-- The result for a command with a parameter, in the place of all results. -/
def hitOf (command : Command) (param : String) : Hit :=
  command.hit commandsLabel param Match.exactScore []

/-- Leaves parameter mode; the text stays. -/
def leave (b : QueryBox) : QueryBox :=
  { b with mode := .normal, active := none, param := "" }

/-- Searches for a text, which is put into the box. -/
def searchFor (b : QueryBox) (query : String) : Reply × QueryBox :=
  (.search query, { b with text := query })

/-- Shows the active command with its parameter, and puts both into the text. -/
def render (b : QueryBox) : Reply × QueryBox :=
  match b.active with
  | none => (.unchanged, b)
  | some command =>
    (.render (hitOf command b.param), { b with text := command.keyword ++ " " ++ b.param })

/-- The parameter was changed. -/
def setParam (b : QueryBox) (param : String) : Reply × QueryBox :=
  if b.isParamMode then { b with param }.render else (.unchanged, b)

/-- What follows the keyword of the active command and a space. -/
def paramOf? (b : QueryBox) (text : String) : Option String :=
  (Text.stripStart? b.lead.toList text.toList).map String.ofList

/-- The text was changed. In parameter mode the text after the keyword is the parameter; a text that
does not begin with the keyword leaves it. -/
def type (b : QueryBox) (text : String) : Reply × QueryBox :=
  if b.isParamMode then
    match b.paramOf? text with
    | some param => b.setParam param
    | none => b.leave.searchFor text
  else b.searchFor text

/-- The tab key: enters parameter mode if the candidate accepts a parameter. -/
def tab (b : QueryBox) (candidate : Option Command) : Reply × QueryBox :=
  if b.isParamMode then (.unchanged, b)
  else
    match candidate.filter (·.acceptsParam) with
    | none => (.unchanged, b)
    | some command => { b with mode := .param, active := some command, param := "" }.render

/-- The escape key: leaves parameter mode and searches for the keyword. -/
def escape (b : QueryBox) : Reply × QueryBox :=
  if b.isParamMode then b.leave.searchFor (b.keyword?.getD "") else (.unchanged, b)

/-- The backspace key: takes the last character from the parameter, or leaves parameter mode if
there is none. -/
def backspace (b : QueryBox) : Reply × QueryBox :=
  if b.isParamMode then
    if b.param.isEmpty then b.escape
    else { b with param := String.ofList b.param.toList.dropLast }.render
  else (.unchanged, b)

/-- The action that the enter key asks for: that of the active command, or else that of the selected
result. -/
def action? (b : QueryBox) (selected : Option Hit) : Option Action :=
  match b.mode, b.active with
  | .param, some command => some (command.action b.param)
  | _, _ => selected.map (·.action)

/-- The enter key: asks for an action, and empties the box. -/
def enter (b : QueryBox) (selected : Option Hit) : Reply × QueryBox :=
  match b.action? selected with
  | some action => (.execute action, { b.leave with text := "" })
  | none => (.unchanged, b)

end QueryBox

end Launcher
