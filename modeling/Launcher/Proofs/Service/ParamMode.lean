import Launcher.Proofs.Search.Unasked
import Launcher.Proofs.Service.Beginnings
import Launcher.Proofs.Service.Receptions
import Launcher.Wire.Encode

namespace Launcher.Reception

/-!
# What appears while a parameter is typed

After the tab key no query is asked until the parameter is left again: the text goes into the
command, and the command alone is shown. Whatever is published meanwhile must have been under way
when the parameter was begun. So the proof is about what was under way, as a set of tickets that can
only be used up.

* `StaysInParamMode` — after each of some events a parameter is typed.
* `received` — the updates that are received in the course of events.
* `Unasked.on`, `Unasked.run` — events after which a parameter is typed ask nothing. Requests are
  the one case with an argument: one that searches or submits would have left parameter mode.
* `param_mode_publications` — so nothing is published but what was under way before, and of that
  only the outcome of the last query.
* `param_mode_overwritten` — and that does happen: the tab key leaves a pending submission alone,
  whose outcome takes the place of the results under the parameter.

What the engine does with queries that nobody adds to is taken from `Engine.Unasked`.
-/

/-- The tickets of the queries that are under way. -/
def tickets (r : Reception) : List Nat :=
  r.service.engine.pendingTicket?.toList ++ r.searches.filterMap Search.ticket?

/-- After each event a parameter is typed. -/
def StaysInParamMode (r : Reception) : List Event → Prop
  | [] => True
  | event :: events =>
    (r.on event).service.box.isParamMode = true ∧ (r.on event).StaysInParamMode events

instance decidableStaysInParamMode :
    (r : Reception) → (events : List Event) → Decidable (r.StaysInParamMode events)
  | _, [] => inferInstanceAs (Decidable True)
  | r, event :: events =>
    have := decidableStaysInParamMode (r.on event) events
    inferInstanceAs (Decidable (_ ∧ _))

/-- The updates that are received in the course of an event. -/
def receivedBy (r : Reception) : Event → List Outcome
  | .sleep ms => (r.service.engine.sleep ms).receive.1
  | _ => []

/-- The updates that are received in the course of events. -/
def received (r : Reception) : List Event → List Outcome
  | [] => []
  | event :: events => r.receivedBy event ++ (r.on event).received events

/-- What has come of a service since some time, while nothing was asked and some updates were
received. -/
structure Unasked (start : Reception) (received : List Outcome) (r : Reception) : Prop where
  engine : Engine.Unasked start.tickets start.service.engine received r.service.engine
  searches : ∀ s ∈ r.searches, ∀ t ∈ s.ticket?, t ∈ start.tickets

namespace Unasked

variable {start r : Reception} {got : List Outcome} {event : Event}

/-- At first nothing has happened. -/
theorem refl (r : Reception) : Unasked r [] r where
  engine := .refl _ _
  searches s hs _ ht := List.mem_append_right _ (List.mem_filterMap.mpr ⟨s, hs, ht⟩)

/-- The tickets under way are those of searches and of what is pending. -/
theorem keptWith (start : Reception) (got : List Outcome) :
    Engine.KeptWith (Engine.Unasked start.tickets start.service.engine got)
      fun s => ∀ t ∈ s.ticket?, t ∈ start.tickets :=
  Engine.Unasked.keptWith fun _ ht => List.mem_append_left _ (Option.mem_toList.mpr ht)

/-- A request after which a parameter is typed begins no search and submits nothing. -/
theorem request (h : Unasked start got r) {request : Request}
    (hparam : (r.on (.request request)).service.box.isParamMode = true) :
    Unasked start got (r.on (.request request)) := by
  have hbegun := r.service.begun_begin request
  unfold on at hparam ⊢
  dsimp only at hparam ⊢
  generalize r.service.begin request = begun at hbegun hparam ⊢
  cases hbegun with
  | searched query box hbox | submitted query box hbox =>
    -- Either of them would have left parameter mode.
    have hmode : box.isParamMode = true := hparam
    rw [hbox] at hmode
    exact nomatch hmode
  | answered response s' hspares =>
    have hpending : s'.engine.pendingTicket? = r.service.engine.pendingTicket? :=
      congrArg (Option.map Submission.ticket) hspares.pending
    exact ⟨h.engine.of_same hspares.board (.inl hpending), h.searches⟩

/-- The property in the form in which looks at the searches are known to keep it. -/
theorem has (h : Unasked start got r) :
    r.Has (Engine.Unasked start.tickets start.service.engine got)
      fun s => ∀ t ∈ s.ticket?, t ∈ start.tickets :=
  ⟨h.engine, h.searches⟩

/-- A look at a search asks nothing. -/
theorem again (h : Unasked start got r) (n : Nat) : Unasked start got (r.on (.again n)) :=
  have hlooked := h.has.again (keptWith start got) n
  ⟨hlooked.engine, hlooked.searches⟩

/-- Events in which nothing is received add nothing to what was. -/
theorem of_none_received (h : Unasked start got (r.on event)) (hnone : r.receivedBy event = []) :
    Unasked start (got ++ r.receivedBy event) (r.on event) := by
  rw [hnone, List.append_nil]
  exact h

/-- An event after which a parameter is typed asks nothing. -/
theorem on (h : Unasked start got r) (hparam : (r.on event).service.box.isParamMode = true) :
    Unasked start (got ++ r.receivedBy event) (r.on event) := by
  cases event with
  | request request => exact (h.request hparam).of_none_received rfl
  | again n => exact (h.again n).of_none_received rfl
  | finish =>
    have hfinish := h.has.finish (keptWith start got)
    exact of_none_received ⟨hfinish.engine, hfinish.searches⟩ rfl
  | leave n =>
    have hrest := h.has.leave n
    exact of_none_received ⟨hrest.engine, hrest.searches⟩ rfl
  | sleep ms => exact ⟨((keptWith start got).sleep h.engine ms).receive, h.searches⟩
  | change files wallClock =>
    exact of_none_received ⟨h.engine.of_same rfl (.inl rfl), h.searches⟩ rfl

/-- Events after each of which a parameter is typed ask nothing. -/
theorem run (h : Unasked start got r) {events : List Event} (hparam : r.StaysInParamMode events) :
    Unasked start (got ++ r.received events) (r.run events) := by
  induction events generalizing r got with
  | nil =>
    rw [received, List.append_nil]
    exact h
  | cons event events ih =>
    obtain ⟨hevent, hevents⟩ := hparam
    rw [received, ← List.append_assoc]
    exact ih (h.on hevent) hevents

end Unasked

/-! ### Main theorem -/

/-- What is published in the course of events. -/
structure PublishesPending (start : Reception) (events : List Event) : Prop where
  /-- No query is asked. -/
  latest : (start.run events).service.engine.board.latest = start.service.engine.board.latest
  /-- The same is shown as before, or the outcome of the last query, if that was under way. -/
  shown : (start.run events).service.shown = start.service.shown ∨
    ∃ o, (start.run events).service.shown = some o ∧
      o.ticket = start.service.engine.board.latest ∧ o.ticket ∈ start.tickets
  /-- No update is sent, or one, if the last query was submitted and was pending. -/
  sent : ∃ sent,
    start.received events ++ (start.run events).service.engine.board.updates =
      start.service.engine.board.updates ++ sent ∧
    (sent = [] ∨ ∃ o, sent = [o] ∧ o.ticket = start.service.engine.board.latest ∧
      start.service.engine.pendingTicket? = some o.ticket)
  /-- Nothing is published if the last query was not under way. -/
  silent : start.service.engine.board.latest ∉ start.tickets →
    (start.run events).service.shown = start.service.shown ∧
    start.received events ++ (start.run events).service.engine.board.updates =
      start.service.engine.board.updates

/-- **While a parameter is typed** nothing is published but the outcome of the last query that was
asked before, and nothing at all if that was not under way. -/
theorem param_mode_publications {start : Reception} {events : List Event}
    (hparam : start.StaysInParamMode events) : PublishesPending start events := by
  have hunasked := ((Unasked.refl start).run hparam).engine
  obtain ⟨sent, hsent, hcases⟩ := hunasked.sent
  rw [List.nil_append] at hsent
  exact {
    latest := hunasked.latest
    shown := hunasked.shown
    sent := ⟨sent, hsent, hcases.imp_right And.right⟩
    silent := by
      -- What is published would carry the ticket of the last query, so that was under way.
      intro hnone
      constructor
      · obtain hsame | ⟨o, -, hlatest, hmem⟩ := hunasked.shown
        · exact hsame
        · exact absurd (hlatest ▸ hmem) hnone
      · obtain rfl | ⟨-, o, -, hlatest, hpending⟩ := hcases
        · rw [hsent, List.append_nil]
        · have hmem : o.ticket ∈ start.tickets :=
            List.mem_append_left _ (Option.mem_toList.mpr hpending)
          exact absurd (hlatest ▸ hmem) hnone }

/-- The service of the cases below, with a command that takes a parameter. -/
def parametric : Service :=
  let command : Command := {
    id := "gh", keyword := "gh", displayName := "GitHub", kind := .url
    template := "https://github.com/search?q=\x7bquery\x7d" }
  let settings : Settings := { Settings.defaults {} with commands := [command] }
  { engine := { sources := { settings, desk := { script := ⟨[]⟩ } }, wallClock := 0 } }

/-- What was submitted is superseded by a search. A parameter is typed then, and time passes. -/
theorem param_mode_publications_searched :
    let start := run { service := parametric }
      [.request (.search "gh"), .finish, .request (.type "1+1"), .request (.search "gh"), .finish]
    let events : List Event := [.request (.tab none), .request (.param "x"), .sleep 1000,
      .request .backspace, .request (.type "gh rust")]
    start.StaysInParamMode events ∧ start.service.engine.board.latest ∉ start.tickets ∧
      PublishesPending start events := by
  intro start events
  have hparam : start.StaysInParamMode events := by decide +kernel
  exact ⟨hparam, by decide +kernel, param_mode_publications hparam⟩

/-- The tab key before the debounce time of a submission is over, under settings that are valid: the
outcome of the submission is sent and shown while the parameter is still typed. -/
theorem param_mode_overwritten :
    let searched := run { service := parametric } [.request (.search "gh"), .finish]
    let typed := searched.on (.request (.type "1+1"))
    let entered := typed.on (.request (.tab none))
    Settings.check parametric.settings = .ok () ∧
      (searched.service.type "1+1").1.text = (Response.ok (.submitted 2)).text ∧
      entered.service.engine.now < parametric.settings.debounceMs.toNat ∧
      entered.service.box.isParamMode = true ∧ entered.StaysInParamMode [.sleep 1000] ∧
      entered.service.shown.map (·.ticket) = some 1 ∧
      (entered.on (.sleep 1000)).service.shown.map (·.ticket) = some 2 ∧
      (entered.received [.sleep 1000]).map (·.query) = ["1+1"] := by
  decide +kernel

end Launcher.Reception
