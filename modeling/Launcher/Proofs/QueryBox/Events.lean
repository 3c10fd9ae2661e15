import Launcher.QueryBox
import Mathlib.Data.List.Induction

namespace Launcher.QueryBox

/-!
# What the events of the query box do

The query box is changed by what the user does, one event after the other. Its four fields could
contradict each other: a mode without a command, a text that does not go with the parameter. That
they never do is an invariant, and here it is derived from a description of what an event can come
to.

* `Event`, `QueryBox.on` — the events of the box as data.
* `QueryBox.plain`, `QueryBox.typing` — the two forms that a box can have;
  `Coherent.eq_plain_or_typing` says that a box whose fields agree has one of them.
* `Turn` — the four things that an event can come to; `turn_on` says that there are no others.
* `Session`, `Session.after` — the replies to a list of events, and the box that they leave.
* `Session.after_induction` — the induction over events, which all invariants of a session use.
* `after_coherent` — the four fields of a box agree after any events.

The handlers of the box are opened in `turn_plain` and `turn_typing` only. What is proved later
about events goes through `Turn`, and does not depend on how a handler is written.
-/

/-- An event of the query box. -/
inductive Event where
  | type (text : String)
  | tab (candidate : Option Command)
  | escape
  | backspace
  | setParam (param : String)
  | enter (selected : Option Hit)
deriving Repr

/-- Takes an event in. -/
def on (b : QueryBox) : Event → Reply × QueryBox
  | .type text => b.type text
  | .tab candidate => b.tab candidate
  | .escape => b.escape
  | .backspace => b.backspace
  | .setParam param => b.setParam param
  | .enter selected => b.enter selected

/-! ### Forms of a box -/

/-- The box with a query. -/
def plain (text : String) : QueryBox :=
  { text }

/-- The box in which a parameter of a command is typed. -/
def typing (command : Command) (param : String) : QueryBox where
  text := command.keyword ++ " " ++ param
  mode := .param
  active := some command
  param := param

theorem plain_ne_typing (text : String) (command : Command) (param : String) :
    plain text ≠ typing command param := by
  simp [plain, typing]

/-- The four fields of a box agree. -/
structure Coherent (b : QueryBox) : Prop where
  mode_iff : b.mode = .param ↔ b.active.isSome
  acceptsParam : ∀ command ∈ b.active, command.acceptsParam = true
  text_eq : b.mode = .param →
    ∃ command ∈ b.active, b.text = command.keyword ++ " " ++ b.param
  param_eq : b.mode = .normal → b.param = ""

theorem coherent_plain (text : String) : Coherent (plain text) where
  mode_iff := by simp [plain]
  acceptsParam := by simp [plain]
  text_eq := by simp [plain]
  param_eq _ := rfl

/-- A box in which a parameter is typed has its command, and the text goes with both. -/
theorem coherent_typing {command : Command} (h : command.acceptsParam = true) (param : String) :
    Coherent (typing command param) where
  mode_iff := by simp [typing]
  acceptsParam := by simpa [typing] using h
  text_eq _ := ⟨command, rfl, rfl⟩
  param_eq h := nomatch h

/-- A box whose fields agree has one of the two forms. -/
theorem Coherent.eq_plain_or_typing {b : QueryBox} (h : b.Coherent) :
    (∃ text, b = plain text) ∨
    (∃ command param, command.acceptsParam = true ∧ b = typing command param) := by
  obtain ⟨text, mode, active, param⟩ := b
  cases mode with
  | normal =>
    have hactive : active = none := by simpa using h.mode_iff
    obtain rfl : param = "" := h.param_eq rfl
    exact .inl ⟨text, by rw [hactive]; rfl⟩
  | param =>
    obtain ⟨command, hcommand, htext⟩ := h.text_eq rfl
    refine .inr ⟨command, param, h.acceptsParam command hcommand, ?_⟩
    obtain rfl : active = some command := hcommand
    obtain rfl : text = command.keyword ++ " " ++ param := htext
    rfl

/-! ### What an event comes to -/

/-- What an event can come to: nothing, a search for the text that is now in the box, a command
shown with the parameter that is now typed, or an action that leaves the box empty. -/
inductive Turn (b : QueryBox) : Reply × QueryBox → Prop
  | unchanged : Turn b (.unchanged, b)
  | search (query : String) : Turn b (.search query, plain query)
  | render {command : Command} (h : command.acceptsParam = true) (param : String) :
      Turn b (.render (hitOf command param), typing command param)
  | execute (action : Action) : Turn b (.execute action, {})

theorem tab_plain (text : String) (candidate : Option Command) :
    (plain text).tab candidate =
      match candidate.filter (·.acceptsParam) with
      | none => (.unchanged, plain text)
      | some command => (.render (hitOf command ""), typing command "") :=
  rfl

/-- A text that goes on with the keyword of the command is a parameter; any other is a query. -/
theorem type_typing (command : Command) (param text : String) :
    (typing command param).type text =
      match (typing command param).paramOf? text with
      | some param' => (.render (hitOf command param'), typing command param')
      | none => (.search text, plain text) :=
  rfl

/-- The backspace key leaves the command when there is nothing to take away. -/
theorem backspace_typing (command : Command) (param : String) :
    (typing command param).backspace =
      if param.isEmpty then (typing command param).escape
      else (typing command param).setParam (String.ofList param.toList.dropLast) :=
  rfl

/-- What an event does to a box with a query. -/
theorem turn_plain (text : String) (event : Event) : Turn (plain text) ((plain text).on event) := by
  cases event with
  | type text' => exact .search text'
  | tab candidate =>
    rw [on, tab_plain]
    split
    next => exact .unchanged
    next command hcommand => exact .render (Option.filter_eq_some_iff.mp hcommand).2 ""
  | escape | backspace | setParam => exact .unchanged
  | enter selected =>
    cases selected with
    | none => exact .unchanged
    | some hit => exact .execute hit.action

/-- What an event does while a parameter is typed. -/
theorem turn_typing {command : Command} (h : command.acceptsParam = true) (param : String)
    (event : Event) : Turn (typing command param) ((typing command param).on event) := by
  cases event with
  | type text =>
    rw [on, type_typing]
    split
    next param' _ => exact .render h param'
    next => exact .search text
  | tab => exact .unchanged
  | escape => exact .search command.keyword
  | backspace =>
    rw [on, backspace_typing]
    split
    next => exact .search command.keyword
    next => exact .render h _
  | setParam param' => exact .render h param'
  | enter => exact .execute (command.action param)

/-- An event of a box whose fields agree comes to one of four things. -/
theorem turn_on {b : QueryBox} (h : b.Coherent) (event : Event) : Turn b (b.on event) := by
  obtain ⟨text, rfl⟩ | ⟨command, param, hcommand, rfl⟩ := h.eq_plain_or_typing
  · exact turn_plain text event
  · exact turn_typing hcommand param event

/-- Whatever an event comes to, the fields agree then. -/
theorem Turn.coherent {b b' : QueryBox} {reply : Reply} (h : Turn b (reply, b'))
    (hb : b.Coherent) : b'.Coherent := by
  cases h with
  | unchanged => exact hb
  | search query => exact coherent_plain query
  | render haccepts param => exact coherent_typing haccepts param
  | execute => exact coherent_plain ""

/-! ### Searches of any box -/

/-- What is shown is no search. -/
theorem render_ne_search (b b' : QueryBox) (query : String) : b.render ≠ (.search query, b') := by
  unfold render
  split <;> simp

/-- A new parameter is shown, never searched for. -/
theorem setParam_ne_search (b b' : QueryBox) (param query : String) :
    b.setParam param ≠ (.search query, b') := by
  unfold setParam
  split
  next => exact render_ne_search _ _ _
  next => simp

/-- The escape key leaves the parameter. -/
theorem isParamMode_of_escape {b b' : QueryBox} {query : String}
    (h : b.escape = (.search query, b')) : b'.isParamMode = false := by
  unfold escape at h
  split at h
  next =>
    obtain ⟨-, rfl⟩ := Prod.mk.inj h
    rfl
  next => simp at h

/-- An event that asks for a search leaves no parameter being typed. -/
theorem isParamMode_of_search {b b' : QueryBox} {event : Event} {query : String}
    (h : b.on event = (.search query, b')) : b'.isParamMode = false := by
  cases event with
  | type text =>
    rw [on, type] at h
    split at h
    next =>
      split at h
      next param _ => exact absurd h (setParam_ne_search _ _ _ _)
      next =>
        obtain ⟨-, rfl⟩ := Prod.mk.inj h
        rfl
    -- No parameter was typed before, and none is now.
    next hmode =>
      obtain ⟨-, rfl⟩ := Prod.mk.inj h
      exact Bool.not_eq_true _ ▸ hmode
  | tab candidate =>
    rw [on, tab] at h
    split at h
    next => simp at h
    next =>
      split at h
      next => simp at h
      next => exact absurd h (render_ne_search _ _ _)
  | escape => exact isParamMode_of_escape h
  | backspace =>
    rw [on, backspace] at h
    split at h
    next =>
      split at h
      next => exact isParamMode_of_escape h
      next => exact absurd h (render_ne_search _ _ _)
    next => simp at h
  | setParam param => exact absurd h (setParam_ne_search _ _ _ _)
  | enter selected =>
    rw [on, enter] at h
    split at h <;> simp at h

/-! ### Lists of events -/

/-- A box, and the replies that it has given. -/
structure Session where
  replies : List Reply := []
  box : QueryBox := {}

namespace Session

/-- Takes an event in. -/
def on (s : Session) (event : Event) : Session :=
  let (reply, box) := s.box.on event
  ⟨s.replies ++ [reply], box⟩

/-- What a box, empty at first, has come to after some events. -/
def after (events : List Event) : Session :=
  events.foldl on {}

/-- The last event is the last one taken in. -/
@[simp] theorem after_concat (events : List Event) (event : Event) :
    after (events ++ [event]) = (after events).on event :=
  List.foldl_append

/-- What holds at first and is kept by each event holds after any events. -/
theorem after_induction {P : Session → Prop} (start : P {})
    (step : ∀ s event, P s → P (s.on event)) (events : List Event) : P (after events) := by
  induction events using List.reverseRecOn with
  | nil => exact start
  | append_singleton events event ih => exact after_concat events event ▸ step _ event ih

/-- The fields agree after any events. -/
theorem coherent_box (events : List Event) : (after events).box.Coherent :=
  after_induction (P := fun s => s.box.Coherent) (coherent_plain "")
    (fun _ event h => (turn_on h event).coherent h) events

end Session

/-! ### Main theorem -/

/-- A search is for the text in the box, in which no parameter is typed. -/
def SearchesText : Reply × QueryBox → Prop
  | (.search query, b) => query = b.text ∧ b.mode = .normal
  | _ => True

/-- A search is one for the text that is left in the box. -/
theorem Turn.searchesText {b : QueryBox} {r : Reply × QueryBox} (h : Turn b r) :
    SearchesText r := by
  cases h with
  | search query => exact ⟨rfl, rfl⟩
  | unchanged | render | execute => trivial

/-- **The fields of a box agree.** They do so after any events, and each search that the next event
asks for is one for the text that it leaves in the box. -/
theorem after_coherent (events : List Event) :
    (Session.after events).box.Coherent ∧
    ∀ event, SearchesText ((Session.after events).box.on event) :=
  have h := Session.coherent_box events
  ⟨h, fun event => (turn_on h event).searchesText⟩

end Launcher.QueryBox
