import Launcher.Proofs.QueryBox.Events
import Launcher.Proofs.Service.Requests

namespace Launcher

/-!
# A displayed position runs the displayed action

A client asks for execution by a position in the results that it was shown. It never names the
action: so what runs at a position must be what it was shown there. The results of a client are
grouped, those of the service are ranked, and the proof is that both count the same results in the
same order.

* `Service.Displays` — the results that a client was shown are those that the service selects from.
* `Service.displays_of_results` — so it is when a request was answered with results. Only searches
  are answered so, and what a search publishes when it ends is what is shown then.
* `Service.Displays.actions_getElem?` — the actions at the positions agree.
* `Service.RunsDisplayed` — what a request for execution does for each position.
* `Service.execute_runs_displayed` — it does so after each such request.

There is no hypothesis about the service: the request that was answered with results has set it up.
-/

/-! ### Positions in the results of a client -/

/-- A client counts the results as they are ranked. -/
theorem ResultsView.actions_ofOutcome (o : Outcome) :
    (ResultsView.ofOutcome o).actions = o.ranking.displayed.map (·.action) := by
  simp [ResultsView.actions, ResultsView.ofOutcome, GroupView.ofGroup, HitView.ofHit,
    Ranking.displayed, List.flatMap_map, List.map_flatMap, Function.comp_def]

namespace Service

variable {s s' : Service} {request : Request} {r : ResultsView} {o : Outcome}

/-! ### Requests that are answered with results -/

/-- The query box shows a command, no results. -/
theorem shownReply_ne_results (reply : QueryBox.Reply) :
    shownReply reply ≠ .ok (.results r) := by
  cases reply <;> simp [shownReply, commandView]

/-- A submission is answered with its ticket. -/
theorem type_ne_results (s : Service) (query : String) : (s.type query).1 ≠ .ok (.results r) := by
  unfold type
  rcases s.box.type query with ⟨reply, box⟩
  cases reply <;> simp [commandView]

/-- An execution is answered with what was executed, or with a fault. -/
theorem executeResponse_ne_results (result : Except ExecuteFault Executed) :
    executeResponse result ≠ .ok (.results r) := by
  cases result <;> simp [executeResponse]

/-- A request is an event of the query box that is carried out, or it is answered at once with
something else than results. -/
theorem begin_cases (s : Service) (request : Request) :
    (∃ event, s.begin request =
      { s with box := (s.box.on event).2 }.apply (s.box.on event).1) ∨
    ∃ response s', s.begin request = (.answered response, s') ∧
      ∀ r, response ≠ .ok (.results r) := by
  cases request with
  | search query => exact .inl ⟨.type query, rfl⟩
  | escape => exact .inl ⟨.escape, rfl⟩
  | backspace => exact .inl ⟨.backspace, rfl⟩
  | type query =>
    exact .inr ⟨(s.type query).1, (s.type query).2, rfl, fun _ => type_ne_results s query⟩
  | tab index =>
    exact .inr ⟨(s.tab index).1, (s.tab index).2, rfl, fun _ => shownReply_ne_results _⟩
  | param text =>
    exact .inr ⟨(s.setParam text).1, (s.setParam text).2, rfl, fun _ => shownReply_ne_results _⟩
  | execute index =>
    exact .inr ⟨executeResponse (s.execute index).1, (s.execute index).2, rfl,
      fun _ => executeResponse_ne_results _⟩
  | clipboard text =>
    exact .inr ⟨.ok (.clipboard (s.capture text).1), (s.capture text).2, rfl, by simp⟩

/-- The results that a client was shown are those of the outcome that the service selects from, and
no parameter is typed. -/
structure Displays (s : Service) (r : ResultsView) (o : Outcome) : Prop where
  shown : s.shown = some o
  results : r = .ofOutcome o
  isProper : o.ranking.IsProper
  mode : s.box.isParamMode = false

/-- A search that was answered with results is shown, and has left parameter mode. -/
theorem displays_of_apply {s₀ : Service} {query : String} (hmode : s₀.box.isParamMode = false)
    (hbegin : s.begin request = s₀.apply (.search query))
    (h : s.handle request = (some (.ok (.results r)), s')) : ∃ o, s'.Displays r o := by
  -- What the search has published when it has ended is what is shown then.
  have hholds := Engine.holds_search s₀.engine query
  rcases hsearch : s₀.engine.search query with ⟨x, engine⟩
  rw [hsearch] at hholds
  have hsearching : s.begin request = (.searching x, { s₀ with engine }) := by
    simp only [hbegin, apply, hsearch]
  obtain ⟨y, engine', hfinish, hshows⟩ := Engine.finish_singleton hholds
  rw [handle_of_searching hsearching hfinish] at h
  obtain ⟨hresponse, rfl⟩ := Prod.mk.inj h
  cases y with
  | published o =>
    obtain ⟨hshown, hproper⟩ := hshows.published o rfl
    obtain rfl : ResultsView.ofOutcome o = r :=
      View.results.inj (Response.ok.inj (Option.some.inj hresponse))
    exact ⟨o, hshown, rfl, hproper, hmode⟩
  | running | superseded | broken => simp [searchResponse?] at hresponse

/-- Results that a request was answered with are shown when it has been answered. -/
theorem displays_of_results (h : s.handle request = (some (.ok (.results r)), s')) :
    ∃ o, s'.Displays r o := by
  obtain ⟨event, hbegin⟩ | ⟨response, s₁, hbegin, hne⟩ := s.begin_cases request
  · -- Of the replies of the query box, only a search is answered with results.
    rcases hon : s.box.on event with ⟨reply, box⟩
    rw [hon] at hbegin
    cases reply with
    | search query => exact displays_of_apply (QueryBox.isParamMode_of_search hon) hbegin h
    | render | execute | unchanged =>
      rw [handle_of_answered hbegin] at h
      simp [commandView] at h
  · rw [handle_of_answered hbegin] at h
    exact absurd (Option.some.inj (Prod.mk.inj h).1) (hne r)

/-! ### Requests for execution -/

/-- What a request for execution does for each position in the results. -/
structure RunsDisplayed (s : Service) (r : ResultsView) : Prop where
  /-- The action at the position is handed to the sink, if the sink accepts it. -/
  accepted : ∀ index action, r.actions[index.getD 0]? = some action →
    (∀ id, action ≠ .builtIn id) → (s.sink.take s.files action).1 = .ok () →
    (s.handle (.execute index)).1 = some (.ok (.executed action none)) ∧
      (s.handle (.execute index)).2.sink = (s.sink.take s.files action).2
  /-- A built-in command at the position is carried out instead. -/
  builtIn : ∀ index id, r.actions[index.getD 0]? = some (.builtIn id) →
    ∃ b, BuiltIn.ofId? id = some b ∧ s.handle (.execute index) =
      (some (executeResponse ({ s with box := {} }.runBuiltIn b).1),
        ({ s with box := {} }.runBuiltIn b).2)
  /-- A position after the last result is refused. -/
  beyond : ∀ i, r.actions.length ≤ i → s.handle (.execute (some i)) =
    (some (.error .invalidRequest s!"invalid request: no result at index {i}"), s)
  /-- Without a position the first result is meant; if there are none, nothing is selected. -/
  first : s.handle (.execute none) =
    if r.actions = [] then (some (.error .nothingSelected "nothing to execute"), s)
    else s.handle (.execute (some 0))
  /-- The first result is the best one. -/
  best : ∃ o, s.shown = some o ∧ r = .ofOutcome o ∧ s.selected? none = o.ranking.best? ∧
    r.actions[0]? = o.ranking.best?.map (·.action)

namespace Displays

variable (h : s.Displays r o)
include h

/-- The service selects from the results in the order of their ranking. -/
theorem selected?_eq (index : Option Nat) :
    s.selected? index = o.ranking.displayed[index.getD 0]? := by
  simp [selected?, h.shown]

/-- The action that a client was shown at a position is that of the result which is selected
there. -/
theorem actions_getElem? (index : Option Nat) :
    r.actions[index.getD 0]? = (s.selected? index).map (·.action) := by
  rw [h.results, ResultsView.actions_ofOutcome, List.getElem?_map, h.selected?_eq]

/-- The enter key carries out the action at the position. -/
theorem execute_of_action {index : Option Nat} {action : Action}
    (haction : r.actions[index.getD 0]? = some action) :
    ∃ launched, s.execute index = { s with box := {} }.perform action launched := by
  rw [h.actions_getElem?] at haction
  obtain ⟨hit, hselected, rfl⟩ := Option.map_eq_some_iff.mp haction
  exact ⟨hit.item?, execute_of_selected h.mode hselected⟩

/-- The action at a position is known, as the results are proper. -/
theorem isKnown_action {index : Option Nat} {action : Action}
    (haction : r.actions[index.getD 0]? = some action) : action.IsKnown := by
  rw [h.actions_getElem?, h.selected?_eq] at haction
  obtain ⟨hit, hhit, rfl⟩ := Option.map_eq_some_iff.mp haction
  exact h.isProper.known hit (List.mem_of_getElem? hhit)

/-- Without a position the best result is selected. -/
theorem selected?_none : s.selected? none = o.ranking.best? := by
  rw [h.selected?_eq, ← h.isProper.isGrouped.displayed_head?, List.head?_eq_getElem?]
  rfl

/-- What is displayed is what runs. -/
theorem runsDisplayed : s.RunsDisplayed r where
  accepted index action haction hne htake := by
    obtain ⟨launched, hexecute⟩ := h.execute_of_action haction
    obtain ⟨hresult, hsink⟩ :=
      perform_of_accepted (s := { s with box := {} }) hne htake launched
    rw [handle_execute, hexecute, hresult]
    exact ⟨rfl, hsink⟩
  builtIn index id haction := by
    obtain ⟨b, hb⟩ := h.isKnown_action haction id rfl
    obtain ⟨launched, hexecute⟩ := h.execute_of_action haction
    refine ⟨b, hb, ?_⟩
    rw [handle_execute, hexecute, perform_builtIn hb]
  beyond i hi := by
    have hnone : s.selected? (some i) = none := by
      have hactions := h.actions_getElem? (some i)
      rw [Option.getD_some, List.getElem?_eq_none hi] at hactions
      exact Option.map_eq_none_iff.mp hactions.symm
    rw [handle_execute, execute_of_beyond h.mode hnone]
    rfl
  first := by
    have hfirst := h.actions_getElem? none
    split
    next hempty =>
      rw [hempty] at hfirst
      have hnone : s.selected? none = none := Option.map_eq_none_iff.mp hfirst.symm
      rw [handle_execute, execute_of_nothing h.mode hnone]
      rfl
    next hne =>
      obtain ⟨action, actions, hactions⟩ := List.exists_cons_of_ne_nil hne
      rw [hactions] at hfirst
      obtain ⟨hit, hselected, -⟩ := Option.map_eq_some_iff.mp hfirst.symm
      have hselected' : s.selected? (some 0) = some hit := hselected
      rw [handle_execute, handle_execute, execute_of_selected h.mode hselected,
        execute_of_selected h.mode hselected']
  best := by
    refine ⟨o, h.shown, h.results, h.selected?_none, ?_⟩
    rw [← h.selected?_none]
    exact h.actions_getElem? none

end Displays

/-! ### Main theorem -/

/-- **A displayed position runs the displayed action.** After a request that was answered with
results, a request for execution carries out the action at that position in the results as the
client counts them. -/
theorem execute_runs_displayed (h : s.handle request = (some (.ok (.results r)), s')) :
    s'.RunsDisplayed r := by
  obtain ⟨o, hdisplays⟩ := displays_of_results h
  exact hdisplays.runsDisplayed

/-- A shell command is found, and then executed without a position. -/
theorem execute_runs_displayed_shell :
    let settings : Settings := { Settings.defaults {} with commands := [] }
    let s : Service := {
      engine := { sources := { settings, desk := { script := ⟨[]⟩ } }, wallClock := 0 } }
    ∃ r s', s.handle (.search "> ls") = (some (.ok (.results r)), s') ∧
      r.actions = [.runShell "ls"] ∧
      (s'.handle (.execute none)).2.sink.taken = [.runShell "ls"] ∧ s'.RunsDisplayed r := by
  intro settings s
  obtain ⟨r, s', hresults, hactions, htaken⟩ :
      ∃ r s', s.handle (.search "> ls") = (some (.ok (.results r)), s') ∧
        r.actions = [.runShell "ls"] ∧
        (s'.handle (.execute none)).2.sink.taken = [.runShell "ls"] :=
    ⟨_, _, rfl, by decide +kernel, by decide +kernel⟩
  exact ⟨r, s', hresults, hactions, htaken, execute_runs_displayed hresults⟩

end Service

end Launcher
