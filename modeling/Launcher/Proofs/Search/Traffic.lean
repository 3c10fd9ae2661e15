import Launcher.Proofs.Search.Ground

namespace Launcher

/-!
# The search engine under every interleaving

An engine is called from many places at once: while one query is being answered, others come, timers
run out, tasks are aborted and updates are received. Here the engine is a transition system whose
steps are small enough that everything which may happen in between does so between two of them. What
is proved of all its runs holds of every schedule.

* `Traffic` — the ground, the queries that are on their way, and what has happened so far.
* `Traffic.act`, `Traffic.run` — one action of one party, and any list of actions: queries are
  submitted and searched, timers end, runs go on one look at a time, tasks are aborted, callers go
  away, updates are received, and time passes. An action that is not possible changes nothing, so
  every list of actions is a run.
* `Traffic.Step`, `Traffic.act_cases` — what an action can come to.
* `Traffic.run_induction` — what steps keep holds after every run.

A ticket is taken and the task of the previous submission aborted in one action, and so is an
outcome checked and published. Everything else may happen in between: there may be many queries on
their way, and a task whose abortion was asked for may still go on.
-/

/-- A query, and how it was asked. -/
structure Inquiry where
  query : String
  /-- It was submitted, and not searched at once. -/
  isSubmitted : Bool

/-- How far the answering of a query has come. -/
inductive Stage where
  /-- The debounce time is not over. -/
  | debouncing (due : Nat)
  /-- The run is about to begin. -/
  | admitted
  | running (run : Run)
  /-- The outcome is made and not yet published. -/
  | concluded (outcome : Outcome)

/-- A query that is on its way. -/
structure Flight extends Inquiry where
  ticket : Nat
  stage : Stage

/-- The publication of an outcome, and what there was when it was checked. -/
structure Publication where
  outcome : Outcome
  isSubmitted : Bool
  /-- The last ticket. -/
  latest : Nat
  /-- Somebody received updates. -/
  isHeard : Bool

/-- The ground, the queries that are on their way, and what has happened so far. -/
structure Traffic extends Ground where
  flights : List Flight := []
  /-- The ticket of the submission whose task is to be aborted when a query comes. -/
  pending : Option Nat := none
  /-- The tickets of the tasks whose abortion was asked for. -/
  aborted : List Nat := []
  /-- The queries that were asked, by their tickets. -/
  asked : List Inquiry := []
  publications : List Publication := []
  /-- What was returned to the callers of searches. -/
  returned : List (Nat × Search) := []
  /-- The updates that were received. -/
  received : List Outcome := []
  /-- The updates that were not received when the receiver went away. -/
  lost : List Outcome := []

/-- The outcome that a search has published. -/
def Search.published? : Search → Option Outcome
  | published outcome => some outcome
  | running _ | superseded | broken => none

namespace Traffic

/-- An action of one party. -/
inductive Action where
  /-- A query is submitted. -/
  | submit (query : String)
  /-- A query is searched at once. -/
  | search (query : String)
  /-- The query of a ticket goes on by one step. -/
  | advance (ticket : Nat)
  /-- The task of a ticket is aborted, if that was asked for. -/
  | abort (ticket : Nat)
  /-- The caller of a search goes away. -/
  | leave (ticket : Nat)
  /-- The updates that were sent are received. -/
  | receive
  /-- Nobody receives updates any more. -/
  | close
  /-- Some milliseconds pass. -/
  | wait (ms : Nat)
  /-- Others change what searches draw from, or set the clock. -/
  | change (sources : Sources) (wallClock : Int)

/-- The query that is asked by an action. -/
def Action.inquiry? : Action → Option Inquiry
  | submit query => some ⟨query, true⟩
  | search query => some ⟨query, false⟩
  | _ => none

/-- A new engine. -/
def opened (sources : Sources) (wallClock : Int) : Traffic where
  sources
  wallClock

/-- The query on its way with a ticket. -/
def flight? (t : Traffic) (ticket : Nat) : Option Flight :=
  t.flights.find? (·.ticket == ticket)

/-- The queries on their way without that of a ticket. -/
def others (t : Traffic) (ticket : Nat) : List Flight :=
  t.flights.filter (·.ticket != ticket)

/-! ### Queries come -/

/-- The traffic when a query has taken the next ticket. The submission that was pending is to be
aborted. -/
def entered (t : Traffic) (inquiry : Inquiry) (stage : Stage) : Traffic :=
  let (ticket, board) := t.board.issue
  { t with
    board
    flights := t.flights ++ [{ inquiry with ticket, stage }]
    -- A search leaves nothing pending; its caller is the only one who can give it up.
    pending := if inquiry.isSubmitted then some ticket else none
    aborted := t.aborted ++ t.pending.toList
    asked := t.asked ++ [inquiry] }

/-- A query is submitted. -/
def submit (t : Traffic) (query : String) : Traffic :=
  t.entered ⟨query, true⟩ (.debouncing (t.now + t.sources.settings.debounceMs.toNat))

/-- A query is searched at once. -/
def search (t : Traffic) (query : String) : Traffic :=
  t.entered ⟨query, false⟩ .admitted

/-! ### Queries go on -/

/-- The traffic when a query has come to another stage. -/
def moved (t : Traffic) (f : Flight) (stage : Stage) : Traffic :=
  { t with flights := t.others f.ticket ++ [{ f with stage }] }

/-- The traffic when a query is no longer on its way. What it came to is returned if it was searched
at once. -/
def landed (t : Traffic) (f : Flight) (search : Search) : Traffic :=
  { t with
    flights := t.others f.ticket
    returned := t.returned ++ if f.isSubmitted then [] else [(f.ticket, search)] }

/-- Begins the run of a query. -/
def begin (t : Traffic) (f : Flight) : Traffic :=
  let (run, sources) := Run.begin t.sources t.now f.ticket f.query
  { t with sources }.moved f (.running run)

/-- Looks again at the run of a query. -/
def look (t : Traffic) (f : Flight) (run : Run) : Traffic :=
  let (run, sources) := run.again t.sources t.now
  { t with sources }.moved f (.running run)

/-- Publishes the outcome of a query, unless its ticket is not the last one any more. -/
def publish (t : Traffic) (f : Flight) (outcome : Outcome) : Traffic :=
  let (search, ground) := t.deliver outcome f.isSubmitted
  { t.landed f search with
    toGround := ground
    publications := t.publications ++
      (search.published?.map (⟨·, f.isSubmitted, t.board.latest, t.board.isOpen⟩)).toList }

/-- A query goes on by one step. -/
def proceed (t : Traffic) (f : Flight) : Traffic :=
  match f.stage with
  | .debouncing due =>
    -- The ticket is checked for the first time when the timer ends.
    if t.now < due then t
    else if t.board.isCurrent f.ticket then t.moved f .admitted
    else t.landed f .superseded
  | .admitted => t.begin f
  | .running run =>
    -- The second check is part of the conclusion, and the third one of the publication.
    match t.conclude? run with
    | none => t.look f run
    | some (.outcome outcome) => t.moved f (.concluded outcome)
    | some .superseded => t.landed f .superseded
    | some .broken => t.landed f .broken
  | .concluded outcome => t.publish f outcome

/-- The query of a ticket goes on by one step, if it is on its way. -/
def advance (t : Traffic) (ticket : Nat) : Traffic :=
  match t.flight? ticket with
  | none => t
  | some f => t.proceed f

/-! ### Queries are given up -/

/-- The traffic without the query of a ticket. -/
def without (t : Traffic) (ticket : Nat) : Traffic :=
  { t with flights := t.others ticket }

/-- The task of a ticket is aborted, if that was asked for. -/
def abort (t : Traffic) (ticket : Nat) : Traffic :=
  if ticket ∈ t.aborted then t.without ticket else t

/-- The caller of a search goes away. Nobody waits for a query that was submitted. -/
def leave (t : Traffic) (ticket : Nat) : Traffic :=
  match t.flight? ticket with
  | none => t
  | some f => if f.isSubmitted then t else t.without ticket

/-! ### Runs -/

/-- The updates that were sent are received. -/
def receive (t : Traffic) : Traffic :=
  let (updates, board) := t.board.receive
  { t with board, received := t.received ++ updates }

/-- Nobody receives updates any more. -/
def close (t : Traffic) : Traffic :=
  { t with board := t.board.close, lost := t.lost ++ t.board.updates }

/-- Takes an action. -/
def act (t : Traffic) : Action → Traffic
  | .submit query => t.submit query
  | .search query => t.search query
  | .advance ticket => t.advance ticket
  | .abort ticket => t.abort ticket
  | .leave ticket => t.leave ticket
  | .receive => t.receive
  | .close => t.close
  | .wait ms => { t with now := t.now + ms }
  | .change sources wallClock => { t with sources, wallClock }

/-- Takes actions in order. -/
def run (t : Traffic) (actions : List Action) : Traffic :=
  actions.foldl act t

@[simp] theorem run_nil (t : Traffic) : t.run [] = t := rfl

@[simp] theorem run_cons (t : Traffic) (a : Action) (actions : List Action) :
    t.run (a :: actions) = (t.act a).run actions := rfl

/-- Later actions are done after earlier ones. -/
theorem run_append (t : Traffic) (actions later : List Action) :
    t.run (actions ++ later) = (t.run actions).run later :=
  List.foldl_append

/-- The traffic when the outcome of a query has been published. -/
def published (t : Traffic) (f : Flight) (outcome : Outcome) : Traffic :=
  { t.landed f (.published outcome) with
    board := t.board.posted outcome f.isSubmitted
    publications := t.publications ++ [⟨outcome, f.isSubmitted, t.board.latest, t.board.isOpen⟩] }

/-! ### What an action can come to -/

/-- What an action comes to if it changes anything. -/
inductive Step (t : Traffic) : Action → Traffic → Prop where
  | submitted (query : String) : Step t (.submit query) (t.submit query)
  | searched (query : String) : Step t (.search query) (t.search query)
  | matured (f : Flight) (hf : t.flight? f.ticket = some f) (due : Nat)
      (hstage : f.stage = .debouncing due) (hdue : due ≤ t.now)
      (hcurrent : t.board.latest = f.ticket) : Step t (.advance f.ticket) (t.moved f .admitted)
  | lapsed (f : Flight) (hf : t.flight? f.ticket = some f) (due : Nat)
      (hstage : f.stage = .debouncing due) (hdue : due ≤ t.now)
      (hpassed : t.board.latest ≠ f.ticket) : Step t (.advance f.ticket) (t.landed f .superseded)
  | begun (f : Flight) (hf : t.flight? f.ticket = some f) (hstage : f.stage = .admitted) (run : Run)
      (sources : Sources) (hbegin : Run.begin t.sources t.now f.ticket f.query = (run, sources)) :
      Step t (.advance f.ticket) ({ t with sources }.moved f (.running run))
  | looked (f : Flight) (hf : t.flight? f.ticket = some f) (run : Run)
      (hstage : f.stage = .running run) (hwaits : run.findings? = none) (run' : Run)
      (sources : Sources) (hagain : run.again t.sources t.now = (run', sources)) :
      Step t (.advance f.ticket) ({ t with sources }.moved f (.running run'))
  | concluded (f : Flight) (hf : t.flight? f.ticket = some f) (run : Run)
      (hstage : f.stage = .running run) (answer : Answer)
      (hfindings : run.findings? = some (.complete answer))
      (hcurrent : t.board.latest = run.ticket) :
      Step t (.advance f.ticket)
        (t.moved f (.concluded (run.outcome t.sources t.wallClock answer)))
  | superseded (f : Flight) (hf : t.flight? f.ticket = some f) (run : Run)
      (hstage : f.stage = .running run) (answer : Answer)
      (hfindings : run.findings? = some (.complete answer))
      (hpassed : t.board.latest ≠ run.ticket) :
      Step t (.advance f.ticket) (t.landed f .superseded)
  | broken (f : Flight) (hf : t.flight? f.ticket = some f) (run : Run)
      (hstage : f.stage = .running run) (hfindings : run.findings? = some .broken) :
      Step t (.advance f.ticket) (t.landed f .broken)
  | published (f : Flight) (hf : t.flight? f.ticket = some f) (outcome : Outcome)
      (hstage : f.stage = .concluded outcome) (hcurrent : t.board.latest = outcome.ticket) :
      Step t (.advance f.ticket) (t.published f outcome)
  | withheld (f : Flight) (hf : t.flight? f.ticket = some f) (outcome : Outcome)
      (hstage : f.stage = .concluded outcome) (hpassed : t.board.latest ≠ outcome.ticket) :
      Step t (.advance f.ticket) (t.landed f .superseded)
  | aborted (ticket : Nat) (hasked : ticket ∈ t.aborted) :
      Step t (.abort ticket) (t.without ticket)
  | left (f : Flight) (hf : t.flight? f.ticket = some f) (hsearched : f.isSubmitted = false) :
      Step t (.leave f.ticket) (t.without f.ticket)
  | received : Step t .receive t.receive
  | closed : Step t .close t.close
  | waited (ms : Nat) : Step t (.wait ms) { t with now := t.now + ms }
  | changed (sources : Sources) (wallClock : Int) :
      Step t (.change sources wallClock) { t with sources, wallClock }

theorem flight?_eq_some {t : Traffic} {ticket : Nat} {f : Flight} (h : t.flight? ticket = some f) :
    f ∈ t.flights ∧ f.ticket = ticket :=
  ⟨List.mem_of_find?_eq_some h, by simpa using List.find?_some h⟩

/-- The outcome of the last ticket is published. -/
theorem publish_of_current {t : Traffic} {outcome : Outcome} (h : t.board.latest = outcome.ticket)
    (f : Flight) : t.publish f outcome = t.published f outcome := by
  unfold publish
  rw [Ground.deliver_of_current h]
  rfl

/-- An outcome whose ticket has passed is superseded. -/
theorem publish_of_passed {t : Traffic} {outcome : Outcome} (h : t.board.latest ≠ outcome.ticket)
    (f : Flight) : t.publish f outcome = t.landed f .superseded := by
  unfold publish
  rw [Ground.deliver_of_passed h]
  simp only [Search.published?, Option.map_none, Option.toList_none, List.append_nil]
  rfl

/-- A query that is on its way goes on in one of the ways above, or its timer has not ended. -/
theorem proceed_cases {t : Traffic} {f : Flight} (hf : t.flight? f.ticket = some f) :
    t.proceed f = t ∨ Step t (.advance f.ticket) (t.proceed f) := by
  unfold proceed
  rcases hstage : f.stage with due | _ | run | outcome
  · -- The timer, and the first check of the ticket.
    by_cases hdue : t.now < due
    · exact .inl (if_pos hdue)
    · refine .inr ?_
      simp only [if_neg hdue]
      by_cases hcurrent : t.board.latest = f.ticket
      · rw [if_pos ((t.board.isCurrent_iff _).mpr hcurrent)]
        exact .matured f hf due hstage (Nat.le_of_not_lt hdue) hcurrent
      · rw [if_neg (mt (t.board.isCurrent_iff _).mp hcurrent)]
        exact .lapsed f hf due hstage (Nat.le_of_not_lt hdue) hcurrent
  · exact .inr (.begun f hf hstage _ _ rfl)
  · refine .inr ?_
    rcases t.conclude?_cases run with
      ⟨hwaits, h⟩ | ⟨hfindings, h⟩ | ⟨answer, hfindings, hticket, h⟩ | ⟨answer, hfindings, hticket, h⟩
    · simp only [h]
      exact .looked f hf run hstage hwaits _ _ rfl
    · simp only [h]
      exact .broken f hf run hstage hfindings
    · simp only [h]
      exact .superseded f hf run hstage answer hfindings hticket
    · simp only [h]
      exact .concluded f hf run hstage answer hfindings hticket
  · refine .inr ?_
    by_cases hcurrent : t.board.latest = outcome.ticket
    · simp only [publish_of_current hcurrent]
      exact .published f hf outcome hstage hcurrent
    · simp only [publish_of_passed hcurrent]
      exact .withheld f hf outcome hstage hcurrent

/-- **What an action can come to.** It changes nothing, or it is a step. -/
theorem act_cases (t : Traffic) (a : Action) : t.act a = t ∨ Step t a (t.act a) := by
  cases a with
  | submit query => exact .inr (.submitted query)
  | search query => exact .inr (.searched query)
  | advance ticket =>
    show t.advance ticket = t ∨ Step t _ (t.advance ticket)
    unfold advance
    rcases hf : t.flight? ticket with _ | f
    · exact .inl rfl
    · obtain ⟨-, rfl⟩ := flight?_eq_some hf
      exact proceed_cases hf
  | abort ticket =>
    show t.abort ticket = t ∨ Step t _ (t.abort ticket)
    unfold abort
    by_cases hasked : ticket ∈ t.aborted
    · rw [if_pos hasked]
      exact .inr (.aborted ticket hasked)
    · exact .inl (if_neg hasked)
  | leave ticket =>
    show t.leave ticket = t ∨ Step t _ (t.leave ticket)
    unfold leave
    rcases hf : t.flight? ticket with _ | f
    · exact .inl rfl
    · obtain ⟨-, rfl⟩ := flight?_eq_some hf
      cases hsearched : f.isSubmitted with
      | true => exact .inl (by simp only [hsearched, if_true])
      | false =>
        refine .inr ?_
        simp only [hsearched, Bool.false_eq_true, if_false]
        exact .left f hf hsearched
  | receive => exact .inr .received
  | close => exact .inr .closed
  | wait ms => exact .inr (.waited ms)
  | change sources wallClock => exact .inr (.changed sources wallClock)

/-- What the steps keep holds after every run. -/
theorem run_induction {P : Traffic → Prop} (step : ∀ t a t', P t → Step t a t' → P t')
    {t : Traffic} (h : P t) (actions : List Action) : P (t.run actions) := by
  refine List.foldlRecOn actions act h ?_
  intro t ht a _
  rcases t.act_cases a with heq | hstep
  · rw [heq]
    exact ht
  · exact step t a _ ht hstep

end Traffic

end Launcher
