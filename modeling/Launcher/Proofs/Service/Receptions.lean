import Launcher.Proofs.Search.Frame
import Launcher.Proofs.Service.Executions

namespace Launcher

/-!
# The service in use

A service is asked by several callers at once. A search that one of them began goes on while
requests of the others come in, time passes and files change. This is modelled by a state, the
reception, and events that may come in any order; theorems about "any use of the service" are about
all lists of events.

* `Reception` — a service, the searches that it has not answered yet, and its responses so far.
* `Reception.on`, `Reception.run` — one event, and any list of them: requests come, searches are
  looked at or given up, time passes, and others change files.
* `Reception.handle_eq` — answering a request that comes alone is two events.
* `Reception.Has` — a property of the engine and one of each search under way, which looks at the
  searches keep if the engine keeps them.
* `Reception.on_cases` — an event is a use of the enter key, or it leaves alone what that acts on:
  the sink, the files and the rows of the history.

Invariants of a reception are proved with `Has`, one lemma for each kind of event. Theorems about
executions use `on_cases` and never look at the other events.
-/

/-- A service, the searches that it has not answered yet, and its responses so far. -/
structure Reception where
  service : Service
  searches : List Search := []
  responses : List Response := []

namespace Reception

open Service (Spares)

/-- What can happen to a service. -/
inductive Event where
  /-- A request comes: it is answered at once, or its search begins. -/
  | request (request : Request)
  /-- A search is looked at again, and answered if it has ended. -/
  | again (n : Nat)
  /-- All searches go on until they have ended. -/
  | finish
  /-- The caller of a search goes away. -/
  | leave (n : Nat)
  /-- Some milliseconds pass, and what was submitted goes on. -/
  | sleep (ms : Nat)
  /-- Others change files, or set the clock. -/
  | change (files : Files) (wallClock : Int)

/-- Others have changed files, or set the clock. -/
def changed (s : Service) (files : Files) (wallClock : Int) : Service :=
  let s := s.withSources { s.sources with world := { s.sources.world with files } }
  { s with engine := { s.engine with wallClock } }

/-- A search has been looked at: it has ended, or is kept. -/
def looked (r : Reception) (n : Nat) (answer : Search × Engine) : Reception :=
  let service := { r.service with engine := answer.2 }
  if answer.1.isEnded then
    { service
      searches := r.searches.eraseIdx n
      responses := r.responses ++ (Service.searchResponse? answer.1).toList }
  else { r with service, searches := r.searches.set n answer.1 }

/-- Takes an event in. -/
def on (r : Reception) : Event → Reception
  | .request request =>
    match r.service.begin request with
    | (.answered response, service) => { r with service, responses := r.responses ++ [response] }
    | (.searching search, service) => { r with service, searches := r.searches ++ [search] }
  | .again n =>
    match r.searches[n]? with
    | none => r
    | some search => r.looked n (r.service.engine.again search)
  | .finish =>
    let (searches, engine) := r.service.engine.finish r.searches
    { service := { r.service with engine }
      responses := r.responses ++ searches.filterMap Service.searchResponse? }
  | .leave n => { r with searches := r.searches.eraseIdx n }
  | .sleep ms => { r with service := (r.service.sleep ms).2 }
  | .change files wallClock => { r with service := changed r.service files wallClock }

/-- Takes events in, in order. -/
def run (r : Reception) (events : List Event) : Reception :=
  events.foldl on r

@[simp] theorem run_nil (r : Reception) : r.run [] = r := rfl

@[simp] theorem run_cons (r : Reception) (event : Event) (events : List Event) :
    r.run (event :: events) = (r.on event).run events := rfl

/-- Events that come later are taken in later. -/
theorem run_append (r : Reception) (events later : List Event) :
    r.run (events ++ later) = (r.run events).run later :=
  List.foldl_append

variable {r : Reception} {s : Service}

/-! ### Requests that come alone -/

/-- One search that goes on to its end is one search still. -/
theorem exists_finish_singleton (e : Engine) (search : Search) :
    ∃ search' engine, e.finish [search] = ([search'], engine) := by
  rcases hfinish : e.finish [search] with ⟨searches, engine⟩
  have hlength := Engine.length_finish e [search]
  rw [hfinish] at hlength
  obtain ⟨search', rfl⟩ := List.length_eq_one_iff.mp hlength
  exact ⟨search', engine, rfl⟩

/-- A request that comes alone is answered in two events: it comes, and what it began is carried
through. -/
theorem handle_eq (s : Service) (request : Request) :
    run { service := s } [.request request, .finish] =
      { service := (s.handle request).2, responses := (s.handle request).1.toList } := by
  rcases hbegin : s.begin request with ⟨response | search, s'⟩
  · rw [Service.handle_of_answered hbegin]
    simp [on, hbegin]
  · obtain ⟨search', engine, hfinish⟩ := exists_finish_singleton s'.engine search
    rw [Service.handle_of_searching hbegin hfinish]
    cases hresponse : Service.searchResponse? search' <;> simp [on, hbegin, hfinish, hresponse]

/-! ### What time keeps -/

/-- The engine has a property, and each search that is not answered yet has one. -/
structure Has (P : Engine → Prop) (Q : Search → Prop) (r : Reception) : Prop where
  engine : P r.service.engine
  searches : ∀ search ∈ r.searches, Q search

namespace Has

variable {P : Engine → Prop} {Q : Search → Prop}

/-- A look at one search keeps what holds of the engine and of each search. -/
theorem again (hkept : Engine.KeptWith P Q) (h : r.Has P Q) (n : Nat) :
    (r.on (.again n)).Has P Q := by
  unfold on
  dsimp only
  split
  next => exact h
  next search hsearch =>
    have hmem : search ∈ r.searches := List.mem_of_getElem? hsearch
    obtain ⟨hengine, hlooked⟩ := hkept.again _ search h.engine (h.searches search hmem)
    unfold looked
    split
    · exact ⟨hengine, fun s hs => h.searches s (List.mem_of_mem_eraseIdx hs)⟩
    · refine ⟨hengine, ?_⟩
      intro s hs
      -- The search that was looked at stands where it stood; the others are untouched.
      obtain hs | rfl := List.mem_or_eq_of_mem_set hs
      · exact h.searches s hs
      · exact hlooked

theorem finish (hkept : Engine.KeptWith P Q) (h : r.Has P Q) : (r.on .finish).Has P Q :=
  ⟨(hkept.finish h.engine h.searches).1, nofun⟩

theorem leave (h : r.Has P Q) (n : Nat) : (r.on (.leave n)).Has P Q :=
  ⟨h.engine, fun s hs => h.searches s (List.mem_of_mem_eraseIdx hs)⟩

end Has

/-! ### What an event comes to -/

/-- The response tells of no execution. -/
def TellsNothing (response : Response) : Prop :=
  ∀ action builtIn, response ≠ .ok (.executed action builtIn)

/-- What has begun tells of no execution. -/
def BeginsNothing (handling : Handling) : Prop :=
  ∀ response, handling = .answered response → TellsNothing response

/-- What is answered with a response that tells nothing. -/
theorem beginsNothing_answered {response : Response} (h : TellsNothing response) :
    BeginsNothing (.answered response) := by
  rintro _ ⟨⟩
  exact h

/-- A search that has begun has not told anything yet. -/
theorem beginsNothing_searching (search : Search) : BeginsNothing (.searching search) := by
  intro response h
  cases h

/-- Changes of the engine alone, which leave the world as it is. -/
theorem spares_engine {engine : Engine}
    (h : engine.sources.world = s.engine.sources.world) : Spares s { s with engine } :=
  ⟨rfl, congrArg World.history h, rfl⟩

theorem tellsNothing_commandView (hit : Hit) : TellsNothing (Service.commandView hit) := by
  simp [TellsNothing, Service.commandView]

theorem tellsNothing_unchanged : TellsNothing (.ok .unchanged) := by
  simp [TellsNothing]

/-- Nor is what the query box shows. -/
theorem tellsNothing_shownReply (reply : QueryBox.Reply) :
    TellsNothing (Service.shownReply reply) := by
  cases reply with
  | render hit => exact tellsNothing_commandView hit
  | search | execute | unchanged => exact tellsNothing_unchanged

/-- Nor is the answer to a search. -/
theorem tellsNothing_searchResponse? {search : Search} {response : Response}
    (h : response ∈ Service.searchResponse? search) : TellsNothing response := by
  cases search with
  | running | superseded | published =>
    obtain rfl := Option.some.inj h
    simp [TellsNothing, View.ofOutcome]
  | broken => exact nomatch h

/-- The query box begins a search, or shows something. -/
theorem spares_apply (s : Service) (reply : QueryBox.Reply) :
    Spares s (s.apply reply).2 ∧ BeginsNothing (s.apply reply).1 := by
  unfold Service.apply
  cases reply with
  | search query => exact ⟨spares_engine (s.engine.search_world query), beginsNothing_searching _⟩
  | render hit => exact ⟨⟨rfl, rfl, rfl⟩, beginsNothing_answered (tellsNothing_commandView hit)⟩
  | execute | unchanged =>
    exact ⟨⟨rfl, rfl, rfl⟩, beginsNothing_answered tellsNothing_unchanged⟩

/-- So it is with any query box. -/
theorem spares_box (s : Service) (box : QueryBox) (reply : QueryBox.Reply) :
    Spares s ({ s with box }.apply reply).2 ∧ BeginsNothing ({ s with box }.apply reply).1 := by
  obtain ⟨hspares, hbegins⟩ := spares_apply { s with box } reply
  exact ⟨⟨hspares.sink, hspares.history, hspares.keepsHistory⟩, hbegins⟩

/-- A submission leaves alone what an execution acts on. -/
theorem spares_type (s : Service) (text : String) :
    Spares s (s.type text).2 ∧ TellsNothing (s.type text).1 := by
  unfold Service.type
  rcases s.box.type text with ⟨reply, box⟩
  cases reply with
  | search query => exact ⟨⟨rfl, rfl, rfl⟩, by simp [TellsNothing]⟩
  | render hit => exact ⟨⟨rfl, rfl, rfl⟩, tellsNothing_commandView hit⟩
  | execute | unchanged => exact ⟨⟨rfl, rfl, rfl⟩, tellsNothing_unchanged⟩

/-- So does a captured text, which goes into the history of the clipboard. -/
theorem spares_capture (s : Service) (text : String) : Spares s (s.capture text).2 := by
  unfold Service.capture
  split
  next c _ _ =>
    rcases c.capture text s.engine.wallClock with ⟨isTaken, c'⟩
    exact ⟨rfl, rfl, rfl⟩
  next c _ =>
    rcases c.capture text s.engine.wallClock with ⟨isTaken, c'⟩
    exact ⟨rfl, rfl, rfl⟩
  next => exact ⟨rfl, rfl, rfl⟩

/-- A request that does not use the enter key leaves alone what that acts on. -/
theorem spares_begin (s : Service) {request : Request} (h : ∀ index, request ≠ .execute index) :
    Spares s (s.begin request).2 ∧ BeginsNothing (s.begin request).1 := by
  cases request with
  | search text => exact spares_box s (s.box.type text).2 (s.box.type text).1
  | escape => exact spares_box s s.box.escape.2 s.box.escape.1
  | backspace => exact spares_box s s.box.backspace.2 s.box.backspace.1
  | type text =>
    obtain ⟨hspares, htells⟩ := spares_type s text
    exact ⟨hspares, beginsNothing_answered htells⟩
  -- Both change the query box only.
  | tab | param => exact ⟨⟨rfl, rfl, rfl⟩, beginsNothing_answered (tellsNothing_shownReply _)⟩
  | execute index => exact absurd rfl (h index)
  | clipboard text =>
    exact ⟨spares_capture s text, beginsNothing_answered (by simp [TellsNothing])⟩

/-- What an event comes to that is no use of the enter key. -/
structure Idle (r r' : Reception) : Prop where
  spares : Spares r.service r'.service
  responses : ∃ more, r'.responses = r.responses ++ more ∧ ∀ response ∈ more, TellsNothing response

/-- An event without a response. -/
theorem Idle.of_same {r' : Reception} (hspares : Spares r.service r'.service)
    (hresponses : r'.responses = r.responses) : Idle r r' :=
  ⟨hspares, [], by rw [hresponses, List.append_nil], by simp⟩

/-- Requests other than for the enter key. -/
theorem idle_request {request : Request} (h : ∀ index, request ≠ .execute index) :
    Idle r (r.on (.request request)) := by
  have hspares := spares_begin r.service h
  unfold on
  dsimp only
  rcases hbegin : r.service.begin request with ⟨response | search, s⟩ <;> rw [hbegin] at hspares
  · exact ⟨hspares.1, [response], rfl, by simpa using hspares.2 response rfl⟩
  · exact .of_same hspares.1 rfl

/-- A look at a search. -/
theorem idle_again (n : Nat) : Idle r (r.on (.again n)) := by
  unfold on
  dsimp only
  split
  next => exact .of_same ⟨rfl, rfl, rfl⟩ rfl
  next search _ =>
    have hkept := (Engine.kept_world _).again r.service.engine search rfl
    unfold looked
    split
    · refine ⟨spares_engine hkept, _, rfl, ?_⟩
      intro response hresponse
      exact tellsNothing_searchResponse? (Option.mem_toList.mp hresponse)
    · exact .of_same (spares_engine hkept) rfl

/-- Going on with all searches to the end. -/
theorem idle_finish : Idle r (r.on .finish) := by
  have hkept := (Engine.kept_world _).finish (e := r.service.engine) rfl r.searches
  refine ⟨spares_engine hkept, _, rfl, ?_⟩
  intro response hresponse
  obtain ⟨search, -, hsearch⟩ := List.mem_filterMap.mp hresponse
  exact tellsNothing_searchResponse? hsearch

/-- A use of the enter key is answered at once. -/
theorem on_execute (r : Reception) (index : Option Nat) :
    r.on (.request (.execute index)) =
      { r with
        service := (r.service.execute index).2
        responses := r.responses ++ [Service.executeResponse (r.service.execute index).1] } := by
  simp only [on, Service.begin, Prod.map, id_eq]

/-- **What an event comes to.** It is a use of the enter key, which is answered at once, or it leaves
alone what that acts on. -/
theorem on_cases (r : Reception) (event : Event) :
    (∃ index, event = .request (.execute index) ∧ r.on event =
      { r with
        service := (r.service.execute index).2
        responses := r.responses ++ [Service.executeResponse (r.service.execute index).1] }) ∨
    ((∀ index, event ≠ .request (.execute index)) ∧ Idle r (r.on event)) := by
  cases event with
  | request request =>
    cases request with
    | execute index => exact .inl ⟨index, rfl, on_execute r index⟩
    | _ => exact .inr ⟨nofun, idle_request nofun⟩
  | again n => exact .inr ⟨nofun, idle_again n⟩
  | finish => exact .inr ⟨nofun, idle_finish⟩
  | leave n => exact .inr ⟨nofun, .of_same ⟨rfl, rfl, rfl⟩ rfl⟩
  | sleep ms =>
    have hkept := (Engine.kept_world _).sleep (e := r.service.engine) rfl ms
    exact .inr ⟨nofun, .of_same (spares_engine hkept) rfl⟩
  | change files wallClock => exact .inr ⟨nofun, .of_same ⟨rfl, rfl, rfl⟩ rfl⟩

end Reception

end Launcher
