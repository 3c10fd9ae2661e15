import Launcher.Proofs.Service.Requests

namespace Launcher.Service

/-!
# What the enter key comes to

The enter key carries the action of the selected result out. Most actions go to the sink, which may
refuse them; those of built-in commands are carried out by the service, or open a place by way of
the sink. What was handed to the sink, what is counted as a launch and what is answered all depend
on which of these it was, so the cases are listed once.

* `Spares` — two services agree in the sink and in the launch history.
* `Carried` — what carrying an action out can come to; `carried_perform` says that there is nothing
  else.
* `execute_cases` — the enter key finds nothing selected, or carries an action out.
* `countable?` — the item whose launch is counted then.
-/

variable {s s' : Service}

/-- Two services agree in what the enter key acts on, beside what is shown. -/
structure Spares (s s' : Service) : Prop where
  sink : s'.sink = s.sink
  history : s'.history = s.history
  keepsHistory : s'.keepsHistory = s.keepsHistory

/-! ### Actions -/

/-- The service after its sink was handed an action. -/
def handed (s : Service) (action : Action) : Service :=
  { s with sink := (s.sink.take s.files action).2 }

/-- What carrying an action out can come to. -/
inductive Carried (s : Service) (item : Option Item) :
    Action → Except ExecuteFault Executed × Service → Prop
  /-- No built-in command has the identity. -/
  | unknown (id : String) (hid : BuiltIn.ofId? id = none) :
      Carried s item (.builtIn id) (.error (.launch (.unknownAction id)), s)
  /-- The service carries a built-in command out itself. -/
  | inside (id : String) (b : BuiltIn) (hid : BuiltIn.ofId? id = some b) (s' : Service)
      (hspares : Spares s s') :
      Carried s item (.builtIn id) (.ok { action := .builtIn b.id, builtIn := some b.id }, s')
  /-- The sink takes the place that a built-in command opens. -/
  | opened (id : String) (b : BuiltIn) (hid : BuiltIn.ofId? id = some b) (place : Action)
      (hne : ∀ id, place ≠ .builtIn id) (htake : (s.sink.take s.files place).1 = .ok ()) :
      Carried s item (.builtIn id) (.ok { action := place, builtIn := some b.id }, s.handed place)
  /-- The sink refuses the place that a built-in command opens. -/
  | shut (id : String) (b : BuiltIn) (hid : BuiltIn.ofId? id = some b) (place : Action)
      (fault : LaunchFault) (htake : (s.sink.take s.files place).1 = .error fault) :
      Carried s item (.builtIn id) (.error (.launch fault), s.handed place)
  /-- The sink takes the action, and the launch of its item is counted. -/
  | launched (action : Action) (hne : ∀ id, action ≠ .builtIn id)
      (htake : (s.sink.take s.files action).1 = .ok ()) :
      Carried s item action
        (.ok { action }, item.elim (s.handed action) (s.handed action).recordLaunch)
  /-- The sink refuses the action. -/
  | refused (action : Action) (fault : LaunchFault) (hne : ∀ id, action ≠ .builtIn id)
      (htake : (s.sink.take s.files action).1 = .error fault) :
      Carried s item action (.error (.launch fault), s.handed action)

theorem launch_eq (s : Service) (action : Action) :
    s.launch action = ((s.sink.take s.files action).1.mapError .launch, s.handed action) :=
  rfl

/-- A built-in command that opens a place is as the sink takes that place. -/
theorem carried_opening {id : String} {b : BuiltIn} (hid : BuiltIn.ofId? id = some b)
    {place : Action} (hne : ∀ id, place ≠ .builtIn id) (item : Option Item) :
    Carried s item (.builtIn id)
      ((s.launch place).1.map fun _ => { action := place, builtIn := some b.id },
        (s.launch place).2) := by
  rw [launch_eq]
  cases htake : (s.sink.take s.files place).1 with
  | ok => exact .opened id b hid place hne htake
  | error fault => exact .shut id b hid place fault htake

/-- A built-in command is carried out inside, or opens a place. -/
theorem carried_runBuiltIn {id : String} {b : BuiltIn} (hid : BuiltIn.ofId? id = some b)
    (item : Option Item) : Carried s item (.builtIn id) (s.runBuiltIn b) := by
  cases b with
  | openLogs => exact carried_opening hid (by simp) item
  | openSettings => exact carried_opening hid (by simp) item
  | clearClipboard => exact .inside id .clearClipboard hid _ ⟨rfl, rfl, rfl⟩
  | rescanFiles => exact .inside id .rescanFiles hid _ ⟨rfl, rfl, rfl⟩

/-- **Carrying an action out** comes to one of these things. -/
theorem carried_perform (s : Service) (action : Action) (item : Option Item) :
    Carried s item action (s.perform action item) := by
  unfold perform
  split
  next id =>
    split
    next b hid => exact carried_runBuiltIn hid item
    next hid => exact .unknown id hid
  next hne =>
    rw [launch_eq]
    cases htake : (s.sink.take s.files action).1 with
    | ok => exact .launched action hne htake
    | error fault => exact .refused action fault hne htake

/-! ### The enter key -/

/-- The item whose launch is counted when the result at a position is carried out. While a parameter
is typed there is none, whatever is shown under it. -/
def countable? (s : Service) (index : Option Nat) : Option Item :=
  if s.box.isParamMode then none else (s.selected? index).bind (·.item?)

/-- The query box asks for its action and is empty then, or has nothing to ask for. -/
theorem enter_eq (b : QueryBox) (selected : Option Hit) :
    b.enter selected = match b.action? selected with
      | some action => (.execute action, {})
      | none => (.unchanged, b) :=
  rfl

/-- Outside parameter mode the action is that of the selected result. -/
theorem action?_of_normal {b : QueryBox} (hmode : b.isParamMode = false) (selected : Option Hit) :
    b.action? selected = selected.map (·.action) := by
  unfold QueryBox.action?
  split
  next hparam _ => simp [QueryBox.isParamMode, hparam] at hmode
  next => rfl

/-- **The enter key** finds nothing to carry out, or carries out what the query box asks for. -/
theorem execute_cases (s : Service) (index : Option Nat) :
    (s.box.action? (s.selected? index) = none ∧
      ∃ fault, s.execute index = (.error fault, s)) ∨
    ∃ action, s.box.action? (s.selected? index) = some action ∧
      s.execute index = { s with box := {} }.perform action (s.countable? index) := by
  unfold execute countable?
  simp only [enter_eq]
  cases haction : s.box.action? (s.selected? index) with
  | some action =>
    split
    next i hmode hselected =>
      rw [action?_of_normal hmode, hselected] at haction
      exact nomatch haction
    next => exact .inr ⟨action, rfl, rfl⟩
  | none =>
    split
    next i _ _ => exact .inl ⟨rfl, .noResult i, rfl⟩
    next => exact .inl ⟨rfl, .nothingSelected, rfl⟩

/-- The item is that of the result which the enter key carries out. -/
theorem countable?_eq_some {index : Option Nat} {item : Item} (h : s.countable? index = some item) :
    ∃ hit, s.box.isParamMode = false ∧ s.selected? index = some hit ∧ hit.item? = some item := by
  unfold countable? at h
  split at h
  next => exact nomatch h
  next hmode =>
    obtain ⟨hit, hselected, hitem⟩ := Option.bind_eq_some_iff.mp h
    exact ⟨hit, Bool.eq_false_iff.mpr hmode, hselected, hitem⟩

end Launcher.Service
