import Launcher.Proofs.QueryBox.Events
import Launcher.Proofs.Service.Executions

namespace Launcher.Service

/-!
# How requests begin

A service takes requests that arrive together, begins all of them, and only then waits for the
searches among them. So what a request does splits into what it does at once and what comes of its
search. The first part is described here, in three cases, whatever the request is.

* `SparesSearches` — two services agree in publications, in what is pending, and in the rates.
* `Begun` — what a request comes to at once: a search begins, a query is submitted, or it is
  answered and searches are spared.
* `sparesSearches_perform`, `sparesSearches_execute` — the enter key spares searches, whatever it
  carries out.
* `begun_begin` — there is nothing else.
-/

variable {s s' s'' : Service}

/-- Two services agree in publications, in what is pending, and in the rates. -/
structure SparesSearches (s s' : Service) : Prop where
  board : s'.engine.board = s.engine.board
  pending : s'.engine.pending = s.engine.pending
  now : s'.engine.now = s.engine.now
  desk : s'.sources.desk = s.sources.desk
  settings : s'.sources.settings = s.sources.settings

/-- What a request comes to at once. -/
inductive Begun (s : Service) : Handling × Service → Prop
  /-- A search begins, and no parameter is typed any more. -/
  | searched (query : String) (box : QueryBox) (hbox : box.isParamMode = false) :
      Begun s (.searching (s.engine.search query).1,
        { s with box, engine := (s.engine.search query).2 })
  /-- A query is submitted, and no parameter is typed any more. -/
  | submitted (query : String) (box : QueryBox) (hbox : box.isParamMode = false) :
      Begun s (.answered (.ok (.submitted (s.engine.submit query).1)),
        { s with box, engine := (s.engine.submit query).2 })
  /-- The request is answered, and searches are spared. -/
  | answered (response : Response) (s' : Service) (hspares : SparesSearches s s') :
      Begun s (.answered response, s')

/-! ### Requests without a search -/

/-- One thing after the other spares searches if both do. -/
theorem SparesSearches.trans (h : SparesSearches s s') (h' : SparesSearches s' s'') :
    SparesSearches s s'' where
  board := h'.board.trans h.board
  pending := h'.pending.trans h.pending
  now := h'.now.trans h.now
  desk := h'.desk.trans h.desk
  settings := h'.settings.trans h.settings

/-- The query box has no part in searches. -/
theorem sparesSearches_box (s : Service) (box : QueryBox) : SparesSearches s { s with box } :=
  ⟨rfl, rfl, rfl, rfl, rfl⟩

/-- The sink is handed an action, and nothing else is touched. -/
theorem sparesSearches_launch (s : Service) (action : Action) :
    SparesSearches s (s.launch action).2 :=
  ⟨rfl, rfl, rfl, rfl, rfl⟩

/-- A launch is counted in the history only. -/
theorem sparesSearches_recordLaunch (s : Service) (item : Item) :
    SparesSearches s (s.recordLaunch item) := by
  unfold recordLaunch
  split
  · exact ⟨rfl, rfl, rfl, rfl, rfl⟩
  · exact ⟨rfl, rfl, rfl, rfl, rfl⟩

/-- A built-in command may forget items, rates or copied texts, but searches go on as they are. -/
theorem sparesSearches_runBuiltIn (s : Service) (b : BuiltIn) :
    SparesSearches s (s.runBuiltIn b).2 := by
  cases b with
  | openLogs | openSettings => exact sparesSearches_launch s _
  | clearClipboard | rescanFiles => exact ⟨rfl, rfl, rfl, rfl, rfl⟩

/-- Carrying an action out spares searches, whoever carries it out. -/
theorem sparesSearches_perform (s : Service) (action : Action) (item : Option Item) :
    SparesSearches s (s.perform action item).2 := by
  unfold perform
  split
  next id =>
    split
    next b _ => exact sparesSearches_runBuiltIn s b
    next => exact ⟨rfl, rfl, rfl, rfl, rfl⟩
  next =>
    have hlaunch := sparesSearches_launch s action
    generalize s.launch action = launched at hlaunch ⊢
    obtain ⟨result, s'⟩ := launched
    cases result with
    | error fault => exact hlaunch
    | ok =>
      cases item with
      | none => exact hlaunch
      | some item => exact hlaunch.trans (sparesSearches_recordLaunch s' item)

/-- So does the enter key. -/
theorem sparesSearches_execute (s : Service) (index : Option Nat) :
    SparesSearches s (s.execute index).2 := by
  obtain ⟨-, fault, heq⟩ | ⟨action, -, heq⟩ := s.execute_cases index
  · rw [heq]
    exact ⟨rfl, rfl, rfl, rfl, rfl⟩
  · rw [heq]
    exact (sparesSearches_box s {}).trans (sparesSearches_perform _ action _)

/-- A copied text goes to the clipboard history only. -/
theorem sparesSearches_capture (s : Service) (text : String) :
    SparesSearches s (s.capture text).2 := by
  unfold capture
  split
  next c _ _ =>
    rcases c.capture text s.engine.wallClock with ⟨isTaken, c'⟩
    exact ⟨rfl, rfl, rfl, rfl, rfl⟩
  next c _ =>
    rcases c.capture text s.engine.wallClock with ⟨isTaken, c'⟩
    exact ⟨rfl, rfl, rfl, rfl, rfl⟩
  next => exact ⟨rfl, rfl, rfl, rfl, rfl⟩

/-! ### All requests -/

/-- A query box that asks for a search has it begun. -/
theorem apply_search (s : Service) (query : String) :
    s.apply (.search query) =
      (.searching (s.engine.search query).1, { s with engine := (s.engine.search query).2 }) := by
  unfold apply
  dsimp only

/-- An event of the query box begins a search, or shows something. -/
theorem begun_apply (s : Service) (event : QueryBox.Event) :
    Begun s ({ s with box := (s.box.on event).2 }.apply (s.box.on event).1) := by
  rcases hon : s.box.on event with ⟨reply, box⟩
  cases reply with
  | search query =>
    rw [apply_search]
    exact .searched query box (QueryBox.isParamMode_of_search hon)
  | render hit => exact .answered _ _ (sparesSearches_box s box)
  | execute action => exact .answered _ _ (sparesSearches_box s box)
  | unchanged => exact .answered _ _ (sparesSearches_box s box)

/-- A text that is typed is submitted, or it is a parameter and shows its command at once. -/
theorem begun_type (s : Service) (text : String) :
    Begun s ((s.type text).map .answered id) := by
  unfold type
  rcases htype : s.box.type text with ⟨reply, box⟩
  cases reply with
  | search query =>
    have hbox : s.box.on (.type text) = (.search query, box) := htype
    exact .submitted query box (QueryBox.isParamMode_of_search hbox)
  | render hit => exact .answered _ _ (sparesSearches_box s box)
  | execute action => exact .answered _ _ (sparesSearches_box s box)
  | unchanged => exact .answered _ _ (sparesSearches_box s box)

/-- **What a request comes to at once** is one of these things. -/
theorem begun_begin (s : Service) (request : Request) : Begun s (s.begin request) := by
  cases request with
  | search text => exact begun_apply s (.type text)
  | escape => exact begun_apply s .escape
  | backspace => exact begun_apply s .backspace
  | type text => exact begun_type s text
  | tab index => exact .answered _ _ (sparesSearches_box s _)
  | param text => exact .answered _ _ (sparesSearches_box s _)
  | execute index => exact .answered _ _ (sparesSearches_execute s index)
  | clipboard text => exact .answered _ _ (sparesSearches_capture s text)

end Launcher.Service
