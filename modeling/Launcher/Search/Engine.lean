import Launcher.Search.Run

namespace Launcher

/-!
# The search engine

* `Ground` — what all queries share: sources, publications and the clock.
* `Ground.conclude?`, `Ground.deliver` — the two steps by which a run ends: its outcome is made if
  its ticket is the last one, and then published if it still is.
* `Engine` — the ground, and the submission that is pending.
* `Engine.search` — answers a query at once; a pending submission is dropped.
* `Engine.submit` — answers a query after the debounce time, unless another comes before.
* `Engine.again`, `Engine.poll` — further looks at a search, and at the pending submission.

Each of these is one step: nothing else happens while it is made.
-/

/-- A query that was submitted. -/
inductive Submission where
  | debouncing (ticket : Nat) (query : String) (due : Nat)
  | running (run : Run)
deriving Repr

/-- What a search has come to. -/
inductive Search where
  | running (run : Run)
  | published (outcome : Outcome)
  | superseded
  | broken
deriving Repr

/-- What all queries share: sources, publications and the clock. -/
structure Ground where
  sources : Sources
  board : Board := {}
  /-- Milliseconds since the engine was started. -/
  now : Nat := 0
  /-- Seconds since the beginning of 1970. -/
  wallClock : Int

/-! ### Ends of runs -/

/-- What a run that waits for nothing more has come to. -/
inductive Conclusion where
  | outcome (outcome : Outcome)
  | superseded
  | broken

namespace Ground

/-- The conclusion of a run; nothing if it still waits. A run whose ticket is not the last one any
more has no outcome. -/
def conclude? (g : Ground) (r : Run) : Option Conclusion :=
  r.findings?.map fun
    | .broken => .broken
    | .complete answer =>
      if g.board.isCurrent r.ticket then .outcome (r.outcome g.sources g.wallClock answer)
      else .superseded

/-- Publishes an outcome, unless its ticket is not the last one any more. -/
def deliver (g : Ground) (outcome : Outcome) (notify : Bool) : Search × Ground :=
  let (isPublished, board) := g.board.publish outcome notify
  (if isPublished then .published outcome else .superseded, { g with board })

/-- Carries a conclusion out. -/
def carryOut (g : Ground) (notify : Bool) : Conclusion → Search × Ground
  | .outcome outcome => g.deliver outcome notify
  | .superseded => (.superseded, g)
  | .broken => (.broken, g)

end Ground

/-- The ground, and the submission that is pending. -/
structure Engine extends Ground where
  pending : Option Submission := none

namespace Engine

/-- Publishes the outcome of a run that waits for nothing more; nothing if it still waits. -/
def settle? (e : Engine) (r : Run) (notify : Bool) : Option (Search × Engine) :=
  (e.conclude? r).map fun conclusion =>
    let (search, ground) := e.carryOut notify conclusion
    (search, { e with toGround := ground })

/-- Goes on with a run: publishes it, or waits. -/
def proceed (e : Engine) (r : Run) (notify : Bool) : Search × Engine :=
  (e.settle? r notify).getD (.running r, e)

/-! ### Searches -/

/-- Answers a query at once; a pending submission is dropped. -/
def search (e : Engine) (query : String) : Search × Engine :=
  let (ticket, board) := e.board.issue
  let (run, sources) := Run.begin e.sources e.now ticket query
  { e with board, sources, pending := none }.proceed run false

/-- Looks again at a search. -/
def again (e : Engine) : Search → Search × Engine
  | .running run =>
    let (run, sources) := run.again e.sources e.now
    { e with sources }.proceed run false
  | s => (s, e)

/-! ### Submissions -/

/-- Answers a query after the debounce time. The submission that was pending is dropped. -/
def submit (e : Engine) (query : String) : Nat × Engine :=
  let (ticket, board) := e.board.issue
  let due := e.now + e.sources.settings.debounceMs.toNat
  (ticket, { e with board, pending := some (.debouncing ticket query due) })

/-- Goes on with the run of a submission, which is pending as long as it waits. -/
def proceedPending (e : Engine) (r : Run) : Engine :=
  match e.proceed r true with
  | (.running run, e) => { e with pending := some (.running run) }
  | (_, e) => { e with pending := none }

/-- Looks at the pending submission. -/
def poll (e : Engine) : Engine :=
  match e.pending with
  | none => e
  | some (.debouncing ticket query due) =>
    if e.now < due then e
    else if e.board.isCurrent ticket then
      let (run, sources) := Run.begin e.sources e.now ticket query
      { e with sources }.proceedPending run
    else { e with pending := none }
  | some (.running run) =>
    let (run, sources) := run.again e.sources e.now
    { e with sources }.proceedPending run

/-! ### Updates -/

/-- Takes the updates that were sent. -/
def receive (e : Engine) : List Outcome × Engine :=
  let (updates, board) := e.board.receive
  (updates, { e with board })

/-- Nobody receives updates any more. -/
def close (e : Engine) : Engine :=
  { e with board := e.board.close }

end Engine

end Launcher
