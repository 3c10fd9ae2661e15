import Launcher.Proofs.Search.Settling
import Launcher.Service.Basic

namespace Launcher.Service

/-!
# What single requests do

The lemmas that say what one request amounts to, for use in the proofs about executions. Callers
cite them and do not open the handling of requests again.

* `handle_of_answered`, `handle_of_searching` — a request that comes alone is answered at once, or
  when its search has ended.
* `handle_execute` — a request for execution is answered at once.
* `execute_of_selected`, `execute_of_beyond`, `execute_of_nothing` — what is executed while no
  parameter is typed: the action of the result that is selected, and nothing if there is none.
* `perform_of_accepted`, `perform_builtIn` — who carries an action out: the sink, or the service
  itself if the action is a built-in command.
-/

variable {s s' : Service}

/-! ### Requests that come alone -/

theorem handle_of_answered {request : Request} {response : Response}
    (h : s.begin request = (.answered response, s')) : s.handle request = (some response, s') := by
  simp [handle, handleAll, beginAll, h, finish, searchesOf, responsesOf?]

/-- A request that begins a search is answered when that has ended. -/
theorem handle_of_searching {request : Request} {x y : Search} {engine : Engine}
    (h : s.begin request = (.searching x, s')) (hfinish : s'.engine.finish [x] = ([y], engine)) :
    s.handle request = (searchResponse? y, { s' with engine }) := by
  cases y <;>
    simp [handle, handleAll, beginAll, h, finish, searchesOf, hfinish, responsesOf?,
      searchResponse?]

/-- A request for execution begins no search. -/
theorem handle_execute (s : Service) (index : Option Nat) :
    s.handle (.execute index) = (some (executeResponse (s.execute index).1), (s.execute index).2) :=
  handle_of_answered rfl

/-! ### Execution of a selected result -/

/-- While no parameter is typed, the enter key asks for the action of what is selected. -/
theorem enter_of_selected {b : QueryBox} (hmode : b.isParamMode = false) (selected : Option Hit) :
    b.enter selected = match selected with
      | some hit => (.execute hit.action, {})
      | none => (.unchanged, b) := by
  obtain ⟨text, mode, active, param⟩ := b
  cases mode with
  | param => exact nomatch hmode
  | normal => cases selected <;> rfl

/-- The query box is empty when the action is carried out. -/
theorem execute_of_selected {index : Option Nat} {hit : Hit} (hmode : s.box.isParamMode = false)
    (h : s.selected? index = some hit) :
    s.execute index = { s with box := {} }.perform hit.action hit.item? := by
  unfold execute
  simp only [h, hmode, enter_of_selected hmode]
  rfl

/-- A position behind the last result is out of place. -/
theorem execute_of_beyond {i : Nat} (hmode : s.box.isParamMode = false)
    (h : s.selected? (some i) = none) : s.execute (some i) = (.error (.noResult i), s) := by
  unfold execute
  simp only [h, hmode]

/-- Without a position and without results there is nothing to execute. -/
theorem execute_of_nothing (hmode : s.box.isParamMode = false) (h : s.selected? none = none) :
    s.execute none = (.error .nothingSelected, s) := by
  unfold execute
  simp only [h, enter_of_selected hmode]

/-! ### Actions -/

@[simp] theorem sink_recordLaunch (s : Service) (item : Item) :
    (s.recordLaunch item).sink = s.sink := by
  unfold recordLaunch
  split <;> rfl

/-- An action that the sink accepts is handed to it once. -/
theorem perform_of_accepted {action : Action} (hne : ∀ id, action ≠ .builtIn id)
    (h : (s.sink.take s.files action).1 = .ok ()) (launched : Option Item) :
    (s.perform action launched).1 = .ok { action } ∧
      (s.perform action launched).2.sink = (s.sink.take s.files action).2 := by
  have hlaunch : s.launch action = (.ok (), { s with sink := (s.sink.take s.files action).2 }) := by
    unfold launch
    simp only [h, Except.mapError]
  unfold perform
  split
  next id => exact absurd rfl (hne id)
  next =>
    rw [hlaunch]
    -- A launch is written down; the sink is not touched by that.
    cases launched with
    | none => exact ⟨rfl, rfl⟩
    | some item => exact ⟨rfl, sink_recordLaunch _ item⟩

/-- A built-in command is run by the service. -/
theorem perform_builtIn {id : String} {b : BuiltIn} (h : BuiltIn.ofId? id = some b)
    (launched : Option Item) : s.perform (.builtIn id) launched = s.runBuiltIn b := by
  simp only [perform, h]

end Launcher.Service
