import Launcher.Currency.Desk

namespace Launcher.Currency

/-!
# Requests for rates from beginning to end

* `Desk.look` — the beginning of a request and the first look at what it waits for.
* `Desk.finish` — requests that were begun together are looked at in order, until all have ended.

Time passes only when nothing can go on: it then moves to the moment at which the next fetch is due.
-/

/-- A request for rates, and what it has come to. -/
structure Request where
  settings : RateSettings
  progress : Progress
deriving Repr

namespace Request

/-- The request has ended. -/
def isEnded (r : Request) : Bool :=
  match r.progress with
  | .ended _ => true
  | .waiting _ => false

/-- What the request has come to; a request that was never looked at has no rates. -/
def result (r : Request) : Except Fault Snapshot :=
  match r.progress with
  | .ended result => result
  | .waiting _ => .error .notConfigured

end Request

namespace Desk

/-- The beginning of a request and the first look at what it waits for. -/
def look (d : Desk) (s : RateSettings) (now : Nat) : Progress × Desk :=
  match d.enter s now with
  | (.ended result, d) => (.ended result, d)
  | (.waiting generation, d) => d.poll s generation now

/-- Looks at a request again. -/
def again (d : Desk) (r : Request) (now : Nat) : Request × Desk :=
  match r.progress with
  | .ended _ => (r, d)
  | .waiting generation =>
    let (progress, d) := d.poll r.settings generation now
    ({ r with progress }, d)

/-- Begins requests in order. -/
def beginAll (d : Desk) (now : Nat) : List RateSettings → List Request × Desk
  | [] => ([], d)
  | s :: rest =>
    let (progress, d) := d.look s now
    let (requests, d) := d.beginAll now rest
    (⟨s, progress⟩ :: requests, d)

/-- Looks at requests again in order. -/
def againAll (d : Desk) (now : Nat) : List Request → List Request × Desk
  | [] => ([], d)
  | r :: rest =>
    let (r, d) := d.again r now
    let (requests, d) := d.againAll now rest
    (r :: requests, d)

/-- The time at which a request can go on: at once if its fetch has ended. -/
def wakeAt? (d : Desk) (now : Nat) (r : Request) : Option Nat :=
  match r.progress with
  | .ended _ => none
  | .waiting generation => some (max now ((d.dueAt? generation).getD now))

/-- Looks at requests again and again, at most `fuel` times, until all have ended. -/
def finishWith (d : Desk) (now : Nat) (requests : List Request) :
    (fuel : Nat) → List Request × Desk × Nat
  | 0 => (requests, d, now)
  | fuel + 1 =>
    match (requests.filterMap (d.wakeAt? now)).min? with
    | none => (requests, d, now)
    | some time =>
      let (requests, d) := d.againAll time requests
      d.finishWith time requests fuel

/-- Carries out requests that begin together. Each round ends one of them at least. -/
def finish (d : Desk) (now : Nat) (settings : List RateSettings) : List Request × Desk × Nat :=
  let (requests, d) := d.beginAll now settings
  d.finishWith now requests requests.length

end Desk

end Launcher.Currency
