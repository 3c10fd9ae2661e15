import Launcher.Search.Board
import Launcher.Search.Sources

namespace Launcher

/-!
# The answering of a query

* `Run` — a query whose interpreter may be waiting for rates and whose items may not have arrived.
* `Run.begin`, `Run.again` — the first and each further look at what it waits for.
* `Run.Findings` — what is known when it waits for nothing more.

The items are those that there are when the run begins. They arrive at the second look, unless there
is no provider to wait for.
-/

/-- What an interpreter has come to. -/
inductive Interpretation where
  | answered (answer : Answer)
  /-- Waits for the fetch of a generation. -/
  | waiting (exchange : Currency.Exchange) (generation : Nat)
  /-- Has broken off, as life times of rates do not add up to a duration. -/
  | broken
deriving Repr

/-- A query that is being answered. -/
structure Run where
  ticket : Nat
  query : String
  interpretation : Interpretation
  items : List Item
  /-- The items have arrived. -/
  hasItems : Bool
deriving Repr

namespace Interpretation

/-- What a request for rates has come to, for the conversion that needs it. -/
def ofProgress (exchange : Currency.Exchange) : Currency.Progress → Interpretation
  | .waiting generation => waiting exchange generation
  | .ended (.error .graceOverflow) => broken
  | .ended result => answered (.ofRates exchange result)

/-- Begins to interpret a query. -/
def begin (settings : Settings) (desk : Currency.Desk) (now : Nat) (query : String) :
    Interpretation × Currency.Desk :=
  match (Intent.classify query.toList).plan settings with
  | .answered answer => (answered answer, desk)
  | .exchange exchange =>
    let (progress, desk) := desk.look (.ofSettings settings) now
    (ofProgress exchange progress, desk)

/-- Looks again at what an interpreter waits for. -/
def again (settings : Settings) (desk : Currency.Desk) (now : Nat) :
    Interpretation → Interpretation × Currency.Desk
  | waiting exchange generation =>
    let (progress, desk) := desk.poll (.ofSettings settings) generation now
    (ofProgress exchange progress, desk)
  | i => (i, desk)

end Interpretation

namespace Run

/-- The query without the blanks around it. -/
def trimmedQuery (r : Run) : String :=
  Text.trimmed r.query

/-- Begins to answer a query. A blank query has no interpreter and no items. -/
def begin (s : Sources) (now ticket : Nat) (query : String) : Run × Sources :=
  let trimmed := Text.trimmed query
  if trimmed.isEmpty then (⟨ticket, query, .answered {}, [], true⟩, s)
  else
    let (interpretation, desk) := Interpretation.begin s.settings s.desk now trimmed
    let (items, s) := { s with desk }.discover
    (⟨ticket, query, interpretation, items, s.providers.isEmpty⟩, s)

/-- Looks again at what a run waits for. -/
def again (s : Sources) (now : Nat) (r : Run) : Run × Sources :=
  let (interpretation, desk) := r.interpretation.again s.settings s.desk now
  ({ r with interpretation, hasItems := true }, { s with desk })

/-- The time at which a run can go on; nothing if it waits for nothing. -/
def wakeAt? (s : Sources) (now : Nat) (r : Run) : Option Nat :=
  if !r.hasItems then some now
  else
    match r.interpretation with
    | .waiting _ generation => some (max now ((s.desk.dueAt? generation).getD now))
    | _ => none

/-- What is known when a run waits for nothing more. -/
inductive Findings where
  | complete (answer : Answer)
  | broken

/-- What is known, if the run waits for nothing more. -/
def findings? (r : Run) : Option Findings :=
  match r.interpretation with
  | .broken => some .broken
  | .answered answer => if r.hasItems then some (.complete answer) else none
  | .waiting _ _ => none

/-- The results of a run with the answer of its interpreter; a blank query has none. -/
def ranking (s : Sources) (time : Int) (r : Run) (answer : Answer) : Ranking :=
  if r.trimmedQuery.isEmpty then {}
  else s.ranking r.trimmedQuery answer.hits r.items time

/-- The outcome of a run with the answer of its interpreter. -/
def outcome (s : Sources) (time : Int) (r : Run) (answer : Answer) : Outcome :=
  ⟨r.ticket, r.query, r.ranking s time answer, answer.notices⟩

end Run

end Launcher
