import Launcher.Currency.Rates

namespace Launcher.Currency

/-!
# Fetches under way

* `Reply`, `Script` — what a source of rates answers, and after how long.
* `Fetch` — a fetch that was started; it ends when somebody who waits for it looks at it after it is
  due.
* `Desk` — the state of rates with the fetches that were started.
* `Desk.enter`, `Desk.leave` — the beginning and the end of a request.
* `Desk.poll` — one look of a request at what it waits for.
-/

/-- What a source of rates answers, and after how many milliseconds. -/
structure Reply where
  delay : Nat
  answer : Except FetchFault Rates
deriving Repr

/-- The replies of a source, one for each fetch, the last of them again and again. -/
structure Script where
  replies : List Reply
deriving Repr

/-- The reply to the next fetch, and what is left of the script. A source without replies is out of
reach. -/
def Script.next (s : Script) : Reply × Script :=
  match s.replies with
  | [] => (⟨0, .error (.network "offline")⟩, s)
  | [reply] => (reply, s)
  | reply :: rest => (reply, ⟨rest⟩)

/-- A fetch that was started. -/
structure Fetch where
  generation : Nat
  base : String
  ttl : UInt64
  due : Nat
  answer : Except FetchFault Rates
  /-- How the fetch ended, once it has. -/
  outcome : Option (Except FetchFault Snapshot) := none
deriving Repr

/-- What a fetch comes to with an answer. Its snapshot is as old as the answer. -/
def Fetch.outcomeOf (f : Fetch) (answer : Except FetchFault Rates) (now : Nat) :
    Except FetchFault Snapshot :=
  answer.map fun rates => ⟨f.base, sortRates rates, now, f.ttl⟩

/-- Ends a fetch with an answer, unless it has ended. -/
def Fetch.resolve (f : Fetch) (answer : Except FetchFault Rates) (now : Nat) : Fetch :=
  if f.outcome.isNone then { f with outcome := some (f.outcomeOf answer now) } else f

/-- Ends a fetch that is due. -/
def Fetch.settle (f : Fetch) (now : Nat) : Fetch :=
  if f.due ≤ now then f.resolve f.answer now else f

/-- The state of rates with the fetches that were started. -/
structure Desk where
  state : RateState := {}
  fetches : List Fetch := []
  script : Script
  /-- The bases that were fetched, in order. -/
  log : List String := []
deriving Repr

/-- What a request has come to: it has ended, or waits for the fetch of a generation. -/
inductive Progress where
  | ended (result : Except Fault Snapshot)
  | waiting (generation : Nat)
deriving Repr

namespace Desk

/-- Starts the fetch of a generation. -/
def start (d : Desk) (s : RateSettings) (generation now : Nat) : Desk :=
  let (reply, script) := d.script.next
  { d with
    fetches := d.fetches ++ [⟨generation, s.base, s.ttl, now + reply.delay, reply.answer, none⟩]
    script
    log := d.log ++ [s.base] }

/-- The beginning of a request. -/
def enter (d : Desk) (s : RateSettings) (now : Nat) : Progress × Desk :=
  let (entry, state) := d.state.enter s now
  let d := { d with state }
  match entry with
  | .refused => (.ended (.error .notConfigured), d)
  | .ready snapshot => (.ended (.ok snapshot), d)
  | .join generation => (.waiting generation, d)
  | .start generation => (.waiting generation, d.start s generation now)

/-- The fetch of a generation. -/
def fetch? (d : Desk) (generation : Nat) : Option Fetch :=
  d.fetches.find? (·.generation == generation)

/-- Ends the fetch of a generation with an answer. -/
def resolve (d : Desk) (generation : Nat) (answer : Except FetchFault Rates) (now : Nat) : Desk :=
  { d with
    fetches := d.fetches.map fun f =>
      if f.generation = generation then f.resolve answer now else f }

/-- Ends the fetch of a generation if it is due. -/
def settle (d : Desk) (generation now : Nat) : Desk :=
  { d with
    fetches := d.fetches.map fun f => if f.generation = generation then f.settle now else f }

/-- How the fetch of a generation ended, once it has. -/
def outcome? (d : Desk) (generation : Nat) : Option (Except FetchFault Snapshot) :=
  (d.fetch? generation).bind (·.outcome)

/-- The end of a request that waited for the fetch of a generation. -/
def leave (d : Desk) (s : RateSettings) (generation : Nat) (outcome : Except FetchFault Snapshot)
    (now : Nat) : Except Fault Snapshot × Desk :=
  let (result, state) := d.state.leave s generation outcome now
  (result, { d with state })

/-- One look of a request at the fetch that it waits for. -/
def poll (d : Desk) (s : RateSettings) (generation now : Nat) : Progress × Desk :=
  let d := d.settle generation now
  match d.outcome? generation with
  | none => (.waiting generation, d)
  | some outcome =>
    let (result, d) := d.leave s generation outcome now
    (.ended result, d)

/-- The time at which the fetch of a generation is due, if it has not ended. -/
def dueAt? (d : Desk) (generation : Nat) : Option Nat :=
  (d.fetch? generation).bind fun f => if f.outcome.isNone then some f.due else none

end Desk

end Launcher.Currency
