import Launcher.Proofs.Search.Unbroken
import Launcher.Proofs.Search.Updates
import Launcher.Proofs.Service.Beginnings
import Launcher.Proofs.Service.Receptions
import Launcher.Service.Serve

namespace Launcher.Service

/-!
# What answers depend on, and that there are any

Two facts about the handling of a request are collected here, each by going through all requests.
The answer does not depend on updates that were not yet received, and the services that it leaves
still differ in these only. And as long as life times add up, there is an answer at all.

* `Service.Alike`, `Service.Same` — services that differ in updates only, and answers with them.
* `Alike.begin`, `Alike.finish` — what a request does at once, and what comes of its search.
* `Alike.handleLine` — the answer to a line does not depend on updates.
* `Begun.lasting` — what a request comes to at once has not broken off.
* `handleLine_lasting` — as long as life times add up, each line is answered.
-/

/-! ### Updates have no bearing on answers -/

/-- A service with other updates that were not yet received. -/
def holding (s : Service) (updates : List Outcome) : Service :=
  { s with engine := s.engine.holding updates }

/-- Two services differ in nothing but the updates that were not yet received. -/
def Alike (s s' : Service) : Prop :=
  ∃ updates, s' = s.holding updates

/-- Two answers are equal, and their services are alike. -/
def Same {α : Type} (x y : α × Service) : Prop :=
  ∃ updates, y = (x.1, x.2.holding updates)

variable {s s' : Service}

/-- A service is like itself with other updates. -/
theorem alike_holding (s : Service) (updates : List Outcome) : s.Alike (s.holding updates) :=
  ⟨updates, rfl⟩

/-- Services are alike if their engines are. -/
theorem alike_of_engine {engine : Engine} (h : s.engine.Alike engine) :
    s.Alike { s with engine } := by
  obtain ⟨updates, rfl⟩ := h
  exact ⟨updates, rfl⟩

/-- What is made of equal answers is equal. -/
theorem Same.map {α β : Type} {x y : α × Service} (h : Same x y) (f : α → β) :
    Same (x.map f id) (y.map f id) := by
  obtain ⟨updates, rfl⟩ := h
  exact ⟨updates, rfl⟩

namespace Alike

/-- What the query box asks for is done alike. -/
theorem apply (h : s.Alike s') (reply : QueryBox.Reply) :
    Same (s.apply reply) (s'.apply reply) := by
  obtain ⟨updates, rfl⟩ := h
  cases reply with
  | search query =>
    have hsearch := (s.engine.alike_holding updates).search query
    have hengine : (s.holding updates).engine = s.engine.holding updates := rfl
    rw [apply_search, apply_search, hengine]
    generalize s.engine.search query = x at hsearch ⊢
    generalize (s.engine.holding updates).search query = y at hsearch ⊢
    obtain ⟨updates, rfl⟩ := hsearch
    exact ⟨updates, rfl⟩
  | render | execute | unchanged => exact ⟨updates, rfl⟩

/-- A text is typed alike. -/
theorem type (h : s.Alike s') (text : String) : Same (s.type text) (s'.type text) := by
  obtain ⟨updates, rfl⟩ := h
  have hbox : (s.holding updates).box = s.box := rfl
  unfold Service.type
  rw [hbox]
  rcases s.box.type text with ⟨reply, box⟩
  cases reply <;> exact ⟨updates, rfl⟩

/-- A built-in command is carried out alike. -/
theorem runBuiltIn (h : s.Alike s') (b : BuiltIn) : Same (s.runBuiltIn b) (s'.runBuiltIn b) := by
  obtain ⟨updates, rfl⟩ := h
  cases b <;> exact ⟨updates, rfl⟩

/-- A launch is counted alike. -/
theorem recordLaunch (h : s.Alike s') (item : Item) :
    (s.recordLaunch item).Alike (s'.recordLaunch item) := by
  obtain ⟨updates, rfl⟩ := h
  have hkeeps : (s.holding updates).keepsHistory = s.keepsHistory := rfl
  unfold Service.recordLaunch
  rw [hkeeps]
  split
  · exact ⟨updates, rfl⟩
  · exact ⟨updates, rfl⟩

/-- An action is carried out alike. -/
theorem perform (h : s.Alike s') (action : Action) (item : Option Item) :
    Same (s.perform action item) (s'.perform action item) := by
  unfold Service.perform
  split
  next id =>
    split
    next b _ => exact h.runBuiltIn b
    next =>
      obtain ⟨updates, rfl⟩ := h
      exact ⟨updates, rfl⟩
  next =>
    obtain ⟨updates, rfl⟩ := h
    have hlaunch : (s.holding updates).launch action =
        ((s.launch action).1, (s.launch action).2.holding updates) := rfl
    rw [hlaunch]
    rcases s.launch action with ⟨result, s⟩
    cases result with
    | error fault => exact ⟨updates, rfl⟩
    | ok =>
      cases item with
      | none => exact ⟨updates, rfl⟩
      | some item =>
        obtain ⟨updates, hrecord⟩ := (s.alike_holding updates).recordLaunch item
        exact ⟨updates, congrArg (Prod.mk _) hrecord⟩

/-- The enter key does the same in both. -/
theorem execute (h : s.Alike s') (index : Option Nat) :
    Same (s.execute index) (s'.execute index) := by
  obtain ⟨updates, rfl⟩ := h
  have hselected : (s.holding updates).selected? index = s.selected? index := rfl
  have hbox : (s.holding updates).box = s.box := rfl
  unfold Service.execute
  rw [hselected, hbox]
  dsimp only
  split
  next => exact ⟨updates, rfl⟩
  next =>
    generalize s.box.enter (s.selected? _) = entered
    obtain ⟨reply, box⟩ := entered
    cases reply with
    | execute action =>
      -- Both have the same box then, and go on alike.
      have halike : Alike { s with box } { s.holding updates with box } := ⟨updates, rfl⟩
      exact halike.perform action _
    | search | render | unchanged => exact ⟨updates, rfl⟩

/-- A copied text is taken in alike. -/
theorem capture (h : s.Alike s') (text : String) : Same (s.capture text) (s'.capture text) := by
  obtain ⟨updates, rfl⟩ := h
  -- Neither the clipboard nor the clock has to do with updates.
  have hcapturing : (s.holding updates).capturing = s.capturing := rfl
  have hclipboard : (s.holding updates).sources.clipboard = s.sources.clipboard := rfl
  have hwallClock : (s.holding updates).engine.wallClock = s.engine.wallClock := rfl
  unfold Service.capture
  rw [hcapturing, hclipboard, hwallClock]
  split
  next c _ _ =>
    rcases c.capture text s.engine.wallClock with ⟨isTaken, c'⟩
    exact ⟨updates, rfl⟩
  next c _ =>
    rcases c.capture text s.engine.wallClock with ⟨isTaken, c'⟩
    exact ⟨updates, rfl⟩
  next => exact ⟨updates, rfl⟩

/-- An event of the query box that is carried out. -/
theorem carryOut (h : s.Alike s') (event : QueryBox.Event) :
    Same ({ s with box := (s.box.on event).2 }.apply (s.box.on event).1)
      ({ s' with box := (s'.box.on event).2 }.apply (s'.box.on event).1) := by
  obtain ⟨updates, rfl⟩ := h
  have hbox : (s.holding updates).box = s.box := rfl
  rw [hbox]
  rcases s.box.on event with ⟨reply, box⟩
  have halike : Alike { s with box } { s.holding updates with box } := ⟨updates, rfl⟩
  exact halike.apply reply

/-- Every request begins alike. -/
theorem begin (h : s.Alike s') (request : Request) :
    Same (s.begin request) (s'.begin request) := by
  cases request with
  | search text => exact h.carryOut (.type text)
  | escape => exact h.carryOut .escape
  | backspace => exact h.carryOut .backspace
  | type text => exact (h.type text).map Handling.answered
  | execute index => exact (h.execute index).map fun r => Handling.answered (executeResponse r)
  | clipboard text => exact (h.capture text).map fun b => Handling.answered (.ok (.clipboard b))
  | tab index | param text =>
    obtain ⟨updates, rfl⟩ := h
    exact ⟨updates, rfl⟩

/-- So do requests that arrive together, one after the other. -/
theorem beginAll (h : s.Alike s') (requests : List Request) :
    Same (s.beginAll requests) (s'.beginAll requests) := by
  induction requests generalizing s s' with
  | nil =>
    obtain ⟨updates, rfl⟩ := h
    exact ⟨updates, rfl⟩
  | cons request rest ih =>
    obtain ⟨updates, hbegin⟩ := h.begin request
    unfold Service.beginAll
    rw [hbegin]
    rcases s.begin request with ⟨handling, s⟩
    obtain ⟨updates, hrest⟩ := ih (s.alike_holding updates)
    simp only [hrest]
    exact ⟨updates, rfl⟩

/-- Their searches end alike. -/
theorem finish (h : s.Alike s') (handlings : List Handling) :
    Same (s.finish handlings) (s'.finish handlings) := by
  obtain ⟨updates, rfl⟩ := h
  have hfinish := (s.engine.alike_holding updates).finish (searchesOf handlings)
  have hengine : (s.holding updates).engine = s.engine.holding updates := rfl
  unfold Service.finish
  rw [hengine]
  obtain ⟨updates, hfinish⟩ := hfinish
  rw [hfinish]
  rcases s.engine.finish (searchesOf handlings) with ⟨searches, engine⟩
  exact ⟨updates, rfl⟩

/-- Requests that arrive together are answered alike. -/
theorem handleAll (h : s.Alike s') (requests : List Request) :
    Same (s.handleAll requests) (s'.handleAll requests) := by
  obtain ⟨updates, hbegin⟩ := h.beginAll requests
  unfold Service.handleAll
  rw [hbegin]
  rcases s.beginAll requests with ⟨handlings, s⟩
  exact (s.alike_holding updates).finish handlings

/-- A request that comes alone is answered alike. -/
theorem handle (h : s.Alike s') (request : Request) :
    Same (s.handle request) (s'.handle request) :=
  (h.handleAll [request]).map fun responses => responses.bind (·.head?)

/-- **The answer to a line** does not depend on updates. -/
theorem handleLine (h : s.Alike s') (line : String) :
    Same (s.handleLine line) (s'.handleLine line) := by
  unfold Service.handleLine
  split
  next request _ => exact h.handle request
  next =>
    obtain ⟨updates, rfl⟩ := h
    exact ⟨updates, rfl⟩

end Alike

/-! ### Answers -/

variable {limit : Nat}

/-- What spares searches leaves their life times as they are. -/
theorem engineLasting_of_spares (h : s.engine.Lasting limit) (hspares : SparesSearches s s') :
    s'.engine.Lasting limit := by
  have hdesk : s'.engine.sources.desk = s.engine.sources.desk := hspares.desk
  have hsettings : s'.engine.sources.settings = s.engine.sources.settings := hspares.settings
  obtain ⟨⟨hlives, httl, hsum⟩, hpending⟩ := h
  refine ⟨⟨?_, ?_, ?_⟩, ?_⟩
  · rw [hdesk]
    exact hlives
  · rw [hsettings]
    exact httl
  · rw [hsettings]
    exact hsum
  · rw [hspares.pending]
    exact hpending

/-- What a request comes to at once has not broken off. -/
theorem Begun.lasting {begun : Handling × Service} (hbegun : s.Begun begun)
    (h : s.engine.Lasting limit) :
    begun.2.engine.Lasting limit ∧ ∀ search ∈ searchesOf [begun.1], search.Unbroken := by
  cases hbegun with
  | searched query box hbox =>
    have hsearched := h.search query
    generalize s.engine.search query = searched at hsearched
    exact ⟨hsearched.1, fun x hx => List.mem_singleton.mp hx ▸ hsearched.2⟩
  | submitted query box hbox => exact ⟨h.submit query, nofun⟩
  | answered response s' hspares => exact ⟨engineLasting_of_spares h hspares, nofun⟩

/-- A search that has not broken off has a response. -/
theorem exists_searchResponse? {search : Search} (h : search.Unbroken) :
    ∃ response, searchResponse? search = some response := by
  cases search with
  | broken => exact absurd rfl h.ne_broken
  | running | published | superseded => exact ⟨_, rfl⟩

/-- A request that comes alone is answered, and life times still add up. -/
theorem handle_lasting (h : s.engine.Lasting limit) (request : Request) :
    ∃ response s', s.handle request = (some response, s') ∧ s'.engine.Lasting limit := by
  have hbegun := (s.begun_begin request).lasting h
  rcases hbegin : s.begin request with ⟨response | search, s'⟩ <;> rw [hbegin] at hbegun
  · exact ⟨response, s', handle_of_answered hbegin, hbegun.1⟩
  · -- The search goes on until it ends, and does not break off until then.
    have hends := (Engine.Lasting.keptWith limit).finish hbegun.1 hbegun.2
    have hsearches : searchesOf [.searching search] = [search] := rfl
    obtain ⟨ended, engine, hfinish⟩ := Reception.exists_finish_singleton s'.engine search
    rw [hsearches, hfinish] at hends
    obtain ⟨response, hresponse⟩ :=
      exists_searchResponse? (hends.2 ended (List.mem_singleton.mpr rfl))
    refine ⟨response, { s' with engine }, ?_, hends.1⟩
    rw [handle_of_searching hbegin hfinish, hresponse]

/-- **Each line is answered** as long as life times add up, and they still do so then. -/
theorem handleLine_lasting (h : s.engine.Lasting limit) (line : String) :
    ∃ response s', s.handleLine line = (some response, s') ∧ s'.engine.Lasting limit := by
  unfold handleLine
  cases Request.parse? line with
  | some request => exact handle_lasting h request
  | none => exact ⟨notARequest, s, rfl, h⟩

end Launcher.Service
