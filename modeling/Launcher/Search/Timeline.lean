import Launcher.Search.Engine

namespace Launcher

/-!
# Searches on a clock

* `Engine.wakeAt?` — when some searches or the pending submission can go on.
* `Engine.finish` — searches that were begun together, from there to their end.
* `Engine.sleep` — lets time pass.

Time passes only when nothing can go on; it then moves to the next moment at which something can.
Searches are looked at in order, and the pending submission after them.
-/

namespace Search

/-- The time at which a search can go on. -/
def wakeAt? (s : Sources) (now : Nat) : Search → Option Nat
  | running run => run.wakeAt? s now
  | _ => none

/-- The search has ended. -/
def isEnded : Search → Bool
  | running _ => false
  | _ => true

end Search

/-- The time at which a submission can go on. -/
def Submission.wakeAt? (s : Sources) (now : Nat) : Submission → Option Nat
  | debouncing _ _ due => some (max now due)
  | running run => run.wakeAt? s now

namespace Engine

/-- The time at which one of some searches or the pending submission can go on. -/
def wakeAt? (e : Engine) (searches : List Search) : Option Nat :=
  let waiting := searches.filterMap (·.wakeAt? e.sources e.now)
  (waiting ++ (e.pending.bind (·.wakeAt? e.sources e.now)).toList).min?

/-- Looks again at searches in order. -/
def againAll (e : Engine) : List Search → List Search × Engine
  | [] => ([], e)
  | s :: rest =>
    let (s, e) := e.again s
    let (searches, e) := e.againAll rest
    (s :: searches, e)

/-- Looks at the pending submission, unless all searches have ended. -/
def pollUnlessEnded (e : Engine) (searches : List Search) : Engine :=
  if searches.all (·.isEnded) then e else e.poll

/-- Looks at searches again and again, at most `fuel` times, until all have ended. -/
def finishWith (e : Engine) (searches : List Search) : (fuel : Nat) → List Search × Engine
  | 0 => (searches, e)
  | fuel + 1 =>
    if searches.all (·.isEnded) then (searches, e)
    else
      match e.wakeAt? searches with
      | none => (searches, e)
      | some time =>
        let (searches, e) := { e with now := time }.againAll searches
        (e.pollUnlessEnded searches).finishWith searches fuel

/-- Goes on with searches that were begun together until all have ended. A search ends at the third
look at it at the latest, as does a submission. -/
def finish (e : Engine) (searches : List Search) : List Search × Engine :=
  (e.pollUnlessEnded searches).finishWith searches (3 * searches.length + 3)

/-- Begins searches in order. -/
def searchAll (e : Engine) : List String → List Search × Engine
  | [] => ([], e)
  | query :: rest =>
    let (s, e) := e.search query
    let (searches, e) := e.searchAll rest
    (s :: searches, e)

/-- Lets time pass up to a moment, in at most `fuel` looks at the pending submission. -/
def sleepUntilWith (e : Engine) (wake : Nat) : (fuel : Nat) → Engine
  | 0 => { e with now := wake }
  | fuel + 1 =>
    match e.wakeAt? [] with
    | some time =>
      if time < wake then ({ e with now := time }.poll).sleepUntilWith wake fuel
      else { e with now := wake }
    | none => { e with now := wake }

/-- Lets time pass up to a moment. What is due at that very moment is not looked at any more. -/
def sleepUntil (e : Engine) (wake : Nat) : Engine :=
  e.sleepUntilWith wake 4

/-- Lets some milliseconds pass. -/
def sleep (e : Engine) (ms : Nat) : Engine :=
  e.sleepUntil (e.now + ms)

end Engine

end Launcher
