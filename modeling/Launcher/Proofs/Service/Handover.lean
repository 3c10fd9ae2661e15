import Launcher.Proofs.Service.Receptions

namespace Launcher

/-!
# What the sink was handed

A client learns from the responses what was executed. These must tell the truth: an action is told
of exactly if the sink took it, and built-in commands, which the service carries out itself, never
reach the sink. A sink that keeps every action shows whether that is so.

* `Response.handed?` — the action that a response says was handed to the sink.
* `Reception.sink_of_carried` — one use of the enter key, by the cases of what it can come to.
* `Reception.Agrees` — a sink that keeps every action has kept just those.
* `Reception.sink_eq_handed` — so it is after any events.
-/

/-- The action that a response says was handed to the sink: that of an execution, unless the service
carried it out itself. -/
def Response.handed? : Response → Option Action
  | .ok (.executed (.builtIn _) _) => none
  | .ok (.executed action _) => some action
  | _ => none

namespace Response

/-- A response that tells of an action tells that it was handed over. -/
theorem handed?_executed {action : Action} (hne : ∀ id, action ≠ .builtIn id)
    (builtIn : Option String) : handed? (.ok (.executed action builtIn)) = some action := by
  cases action with
  | builtIn id => exact absurd rfl (hne id)
  | _ => rfl

/-- No response tells that a built-in command was handed over. -/
theorem handed?_ne_builtIn (response : Response) (id : String) :
    handed? response ≠ some (.builtIn id) := by
  unfold handed?
  split
  next => exact nofun
  next action _ hne =>
    rintro ⟨⟩
    exact hne id rfl
  next => exact nofun

end Response

namespace Reception

/-- A response that tells of no execution tells of no action. -/
theorem handed?_of_tellsNothing {response : Response} (h : TellsNothing response) :
    response.handed? = none := by
  unfold Response.handed?
  split
  next => rfl
  next action builtIn _ => exact absurd rfl (h action builtIn)
  next => rfl

/-! ### One use of the enter key -/

variable {s : Service} {actions : List Action}

/-- Whatever carrying an action out comes to, the response says what was handed to the sink. -/
theorem sink_of_carried {action : Action} {item : Option Item}
    {answer : Except ExecuteFault Executed × Service} (h : Service.Carried s item action answer)
    (hsink : s.sink = .recording actions) :
    answer.2.sink =
      .recording (actions ++ (Service.executeResponse answer.1).handed?.toList) := by
  have htaken (action : Action) : s.sink.take s.files action =
      (.ok (), .recording (actions ++ [action])) := by
    rw [hsink]
    rfl
  cases h with
  | unknown id hid => simpa [Service.executeResponse, Response.handed?] using hsink
  | inside id b hid s' hspares =>
    simpa [Service.executeResponse, Response.handed?, hspares.sink] using hsink
  | opened id b hid place hne =>
    simp [Service.executeResponse, Response.handed?_executed hne, Service.handed, htaken]
  | launched action hne =>
    cases item <;>
      simp [Service.executeResponse, Response.handed?_executed hne, Service.handed, htaken]
  | shut id b hid place fault htake =>
    -- The sink refuses nothing.
    rw [htaken] at htake
    exact nomatch htake
  | refused action fault hne htake =>
    rw [htaken] at htake
    exact nomatch htake

/-- What the enter key handed to the sink is what its response tells. -/
theorem sink_execute (hsink : s.sink = .recording actions) (index : Option Nat) :
    (s.execute index).2.sink = .recording
      (actions ++ (Service.executeResponse (s.execute index).1).handed?.toList) := by
  obtain ⟨-, fault, h⟩ | ⟨action, -, h⟩ := s.execute_cases index
  · simpa [h, Service.executeResponse, Response.handed?] using hsink
  · rw [h]
    exact sink_of_carried (Service.carried_perform _ action _) hsink

/-! ### Any events -/

/-- The sink has kept the actions that the responses say it was handed, in order. -/
def Agrees (r : Reception) : Prop :=
  r.service.sink = .recording (r.responses.filterMap Response.handed?)

/-- Each event keeps the sink and the responses in agreement. -/
theorem Agrees.on {r : Reception} (h : r.Agrees) (event : Event) : (r.on event).Agrees := by
  -- Only the enter key hands anything over, and only its response tells of an execution.
  obtain ⟨index, -, hon⟩ | ⟨-, hidle⟩ := r.on_cases event
  · rw [hon]
    unfold Agrees
    rw [sink_execute h index, List.filterMap_append]
    cases hhanded : (Service.executeResponse (r.service.execute index).1).handed? <;> simp [hhanded]
  · obtain ⟨more, hresponses, hmore⟩ := hidle.responses
    have hnone : more.filterMap Response.handed? = [] := by
      rw [List.filterMap_eq_nil_iff]
      exact fun response hresponse => handed?_of_tellsNothing (hmore response hresponse)
    unfold Agrees
    rw [hidle.spares.sink, hresponses, List.filterMap_append, hnone, List.append_nil]
    exact h

/-- So do any events. -/
theorem Agrees.run {r : Reception} (h : r.Agrees) (events : List Event) :
    (r.run events).Agrees := by
  induction events generalizing r with
  | nil => exact h
  | cons event events ih => exact ih (h.on event)

/-- **The sink was handed what the responses tell.** A sink that keeps every action has kept, in
order, the actions of the responses that tell of an execution, but for those that are built-in
commands; and it has kept no built-in command. -/
theorem sink_eq_handed (s : Service) (events : List Event) :
    let r := run { service := { s with sink := .recording [] } } events
    r.service.sink = .recording (r.responses.filterMap Response.handed?) ∧
      ∀ id, .builtIn id ∉ r.service.sink.taken := by
  intro r
  have hstart : Agrees { service := { s with sink := .recording [] } } := rfl
  have hagrees : r.Agrees := hstart.run events
  refine ⟨hagrees, ?_⟩
  intro id hmem
  rw [hagrees] at hmem
  obtain ⟨response, -, hhanded⟩ := List.mem_filterMap.mp hmem
  exact response.handed?_ne_builtIn id hhanded

end Reception

end Launcher
