import Launcher.Search.Engine

namespace Launcher

/-!
# What runs and publications do

Whatever the engine does with a query is made of few steps: a run begins, is looked at again, and
ends with an outcome that is published if its ticket is the last one. Each of these steps is said
here once, with all that it can come to, and later proofs take it from here instead of opening the
definitions.

* `Run.begin_ticket`, `Run.begin_query` — a run carries the ticket and the query for which it was
  begun.
* `Board.posted` — the board when an outcome has been published.
* `Ground.conclude?_cases` — what a run can come to.
* `Ground.deliver_of_current`, `Ground.deliver_of_passed` — an outcome is published exactly if its
  ticket is the last one.
* `Engine.asked` — the engine when a query has been asked, with which a search goes on.
* `Engine.search_eq`, `Engine.again_eq` — a search, and a further look at it, go on with a run.
* `Engine.poll_debouncing`, `Engine.poll_running` — a look at what is pending, step by step;
  `Engine.poll_cases` — what it can come to.
* `Engine.proceed_cases`, `Engine.proceedPending_cases` — what going on with a run does.
-/

/-! ### Runs -/

namespace Run

@[simp] theorem begin_ticket (s : Sources) (now ticket : Nat) (query : String) :
    (Run.begin s now ticket query).1.ticket = ticket := by
  unfold Run.begin
  dsimp only
  split <;> rfl

@[simp] theorem begin_query (s : Sources) (now ticket : Nat) (query : String) :
    (Run.begin s now ticket query).1.query = query := by
  unfold Run.begin
  dsimp only
  split <;> rfl

end Run

/-! ### Publication -/

namespace Board

/-- A ticket is the last one if it is the one that was issued last. -/
theorem isCurrent_iff (b : Board) (ticket : Nat) : b.isCurrent ticket = true ↔ b.latest = ticket :=
  beq_iff_eq

/-- The board when an outcome has been published. -/
def posted (b : Board) (outcome : Outcome) (notify : Bool) : Board where
  latest := b.latest
  shown := some outcome
  updates := b.updates ++ if notify && b.isOpen then [outcome] else []
  isOpen := b.isOpen

/-- The outcome of the last ticket is shown, and sent if that was asked for and somebody receives
it. -/
theorem publish_of_current {b : Board} {outcome : Outcome} (h : b.latest = outcome.ticket)
    (notify : Bool) : b.publish outcome notify = (true, b.posted outcome notify) := by
  unfold publish
  rw [if_pos ((b.isCurrent_iff _).mpr h)]
  cases notify <;> cases hopen : b.isOpen <;> simp [posted, send, hopen]

/-- The outcome of an earlier ticket changes nothing. -/
theorem publish_of_passed {b : Board} {outcome : Outcome} (h : b.latest ≠ outcome.ticket)
    (notify : Bool) : b.publish outcome notify = (false, b) := by
  unfold publish
  rw [if_neg (mt (b.isCurrent_iff _).mp h)]

end Board

namespace Ground

variable (g : Ground)

/-- What a run can come to: it waits, it has broken off, its ticket has passed, or its outcome is
made. -/
theorem conclude?_cases (r : Run) :
    (r.findings? = none ∧ g.conclude? r = none) ∨
    (r.findings? = some .broken ∧ g.conclude? r = some .broken) ∨
    (∃ answer, r.findings? = some (.complete answer) ∧ g.board.latest ≠ r.ticket ∧
      g.conclude? r = some .superseded) ∨
    (∃ answer, r.findings? = some (.complete answer) ∧ g.board.latest = r.ticket ∧
      g.conclude? r = some (.outcome (r.outcome g.sources g.wallClock answer))) := by
  unfold conclude?
  -- Only a run that has its answer asks whether its ticket is the last one; one that has broken off
  -- does not.
  rcases hr : r.findings? with _ | answer | _
  · exact .inl ⟨rfl, rfl⟩
  · by_cases hcurrent : g.board.latest = r.ticket
    · refine .inr (.inr (.inr ⟨answer, rfl, hcurrent, ?_⟩))
      simp only [Option.map_some, (g.board.isCurrent_iff _).mpr hcurrent, if_true]
    · refine .inr (.inr (.inl ⟨answer, rfl, hcurrent, ?_⟩))
      simp only [Option.map_some, mt (g.board.isCurrent_iff _).mp hcurrent]
      rfl
  · exact .inr (.inl ⟨rfl, rfl⟩)

variable {g}

/-- An outcome is published while its ticket is the last one. -/
theorem deliver_of_current {outcome : Outcome} (h : g.board.latest = outcome.ticket)
    (notify : Bool) :
    g.deliver outcome notify =
      (.published outcome, { g with board := g.board.posted outcome notify }) := by
  unfold deliver
  rw [Board.publish_of_current h]
  rfl

/-- Once its ticket has passed, it is superseded, and nothing is changed. -/
theorem deliver_of_passed {outcome : Outcome} (h : g.board.latest ≠ outcome.ticket)
    (notify : Bool) : g.deliver outcome notify = (.superseded, g) := by
  unfold deliver
  rw [Board.publish_of_passed h]
  rfl

end Ground

/-! ### Searches -/

namespace Engine

/-- The engine when a query has been asked: it has issued a ticket, and what was pending is dropped.
The sources are those that the beginning of the run has left. -/
def asked (e : Engine) (sources : Sources) : Engine :=
  { e with board := e.board.issue.2, pending := none, sources }

/-- A search goes on with the run that begins when its query has been asked. -/
theorem search_eq {e : Engine} {query : String} {run : Run} {sources : Sources}
    (h : Run.begin e.sources e.now (e.board.latest + 1) query = (run, sources)) :
    e.search query = (e.asked sources).proceed run false := by
  have hissued : Run.begin e.sources e.now e.board.issue.1 query = (run, sources) := h
  unfold search asked
  simp only [hissued]

/-- A further look at a search goes on with its run and what this has found. -/
theorem again_eq {e : Engine} {run run' : Run} {sources : Sources}
    (h : run.again e.sources e.now = (run', sources)) :
    e.again (.running run) = { e with sources }.proceed run' false := by
  unfold again
  simp only [h]

/-- There is nothing to look at if nothing is pending. -/
theorem poll_none {e : Engine} (h : e.pending = none) : e.poll = e := by
  unfold poll
  rw [h]

/-- A submission waits for its moment. It is then dropped if its ticket has passed, and begins its
run otherwise. -/
theorem poll_debouncing {e : Engine} {ticket : Nat} {query : String} {due : Nat} {run : Run}
    {sources : Sources} (h : e.pending = some (.debouncing ticket query due))
    (hbegin : Run.begin e.sources e.now ticket query = (run, sources)) :
    e.poll =
      if e.now < due then e
      else if e.board.isCurrent ticket then { e with sources }.proceedPending run
      else { e with pending := none } := by
  unfold poll
  rw [h]
  simp only [hbegin]

/-- The run of a submission is looked at again like that of a search. -/
theorem poll_running {e : Engine} {run run' : Run} {sources : Sources}
    (h : e.pending = some (.running run))
    (hagain : run.again e.sources e.now = (run', sources)) :
    e.poll = { e with sources }.proceedPending run' := by
  unfold poll
  rw [h]
  simp only [hagain]

/-- A look at what is pending changes nothing, drops it, or goes on with its run. -/
theorem poll_cases (e : Engine) :
    e.poll = e ∨ e.poll = { e with pending := none } ∨
    (∃ ticket query due run sources, e.pending = some (.debouncing ticket query due) ∧
      Run.begin e.sources e.now ticket query = (run, sources) ∧
      e.poll = { e with sources }.proceedPending run) ∨
    (∃ run run' sources, e.pending = some (.running run) ∧
      run.again e.sources e.now = (run', sources) ∧
      e.poll = { e with sources }.proceedPending run') := by
  obtain ⟨pending, hpending⟩ : ∃ pending, e.pending = pending := ⟨_, rfl⟩
  rcases pending with _ | ⟨ticket, query, due⟩ | run
  · exact .inl (poll_none hpending)
  · rcases hbegin : Run.begin e.sources e.now ticket query with ⟨run, sources⟩
    rw [poll_debouncing hpending hbegin]
    split
    · exact .inl rfl
    · split
      · exact .inr (.inr (.inl ⟨ticket, query, due, run, sources, hpending, hbegin, rfl⟩))
      · exact .inr (.inl rfl)
  · rcases hagain : run.again e.sources e.now with ⟨run', sources⟩
    exact .inr (.inr (.inr ⟨run, run', sources, hpending, hagain, poll_running hpending hagain⟩))

/-- Going on with a run changes nothing, or publishes its outcome. -/
theorem proceed_cases (e : Engine) (r : Run) (notify : Bool) :
    (r.findings? = none ∧ e.proceed r notify = (.running r, e)) ∨
    (r.findings? = some .broken ∧ e.proceed r notify = (.broken, e)) ∨
    (e.board.latest ≠ r.ticket ∧ e.proceed r notify = (.superseded, e)) ∨
    (∃ o, o.ticket = r.ticket ∧ e.board.latest = r.ticket ∧
      e.proceed r notify = (.published o, { e with board := e.board.posted o notify })) := by
  unfold proceed settle?
  rcases e.conclude?_cases r with
    ⟨hfindings, hc⟩ | ⟨hfindings, hc⟩ | ⟨-, -, hpassed, hc⟩ | ⟨answer, -, hcurrent, hc⟩ <;> rw [hc]
  · exact .inl ⟨hfindings, rfl⟩
  · exact .inr (.inl ⟨hfindings, rfl⟩)
  · exact .inr (.inr (.inl ⟨hpassed, rfl⟩))
  · refine .inr (.inr (.inr ⟨r.outcome e.sources e.wallClock answer, rfl, hcurrent, ?_⟩))
    rw [Option.map_some, Ground.carryOut, Ground.deliver_of_current hcurrent]
    rfl

/-- Going on with the run of a search leaves the pending submission alone. -/
theorem proceed_pending (e : Engine) (run : Run) (notify : Bool) :
    (e.proceed run notify).2.pending = e.pending := by
  unfold proceed settle?
  cases e.conclude? run <;> rfl

/-- Going on with the run of a submission keeps it pending, drops it, or publishes its outcome. -/
theorem proceedPending_cases (e : Engine) (r : Run) :
    (r.findings? = none ∧ e.proceedPending r = { e with pending := some (.running r) }) ∨
    e.proceedPending r = { e with pending := none } ∨
    (∃ o, o.ticket = r.ticket ∧ e.board.latest = r.ticket ∧
      e.proceedPending r = { e with board := e.board.posted o true, pending := none }) := by
  unfold proceedPending
  rcases e.proceed_cases r true with
    ⟨hfindings, h⟩ | ⟨-, h⟩ | ⟨-, h⟩ | ⟨o, hticket, hcurrent, h⟩ <;> rw [h]
  · exact .inl ⟨hfindings, rfl⟩
  · exact .inr (.inl rfl)
  · exact .inr (.inl rfl)
  · exact .inr (.inr ⟨o, hticket, hcurrent, rfl⟩)

end Engine

end Launcher
