import Launcher.Ranking

namespace Launcher

/-!
# Publication of outcomes

* `Outcome` — what a query came to.
* `Board` — the last ticket that was issued, the outcome that is shown, and the updates that were
  sent.
* `Board.issue`, `Board.publish` — a query takes a ticket, and its outcome is shown only while that
  ticket is the last one.
-/

/-- What a query came to. -/
structure Outcome where
  ticket : Nat
  query : String
  ranking : Ranking := {}
  notices : List Notice := []
deriving Repr

/-- The tickets that were issued and the outcomes that were published. -/
structure Board where
  /-- The last ticket; tickets are issued in order from one on. -/
  latest : Nat := 0
  /-- The outcome that is shown. -/
  shown : Option Outcome := none
  /-- The updates that were sent and not yet received. -/
  updates : List Outcome := []
  /-- Somebody receives updates. -/
  isOpen : Bool := true
deriving Repr

namespace Board

/-- Issues the next ticket. -/
def issue (b : Board) : Nat × Board :=
  (b.latest + 1, { b with latest := b.latest + 1 })

/-- The ticket is the last one. -/
def isCurrent (b : Board) (ticket : Nat) : Bool :=
  b.latest == ticket

/-- Sends an update, if somebody receives it. -/
def send (b : Board) (outcome : Outcome) : Board :=
  if b.isOpen then { b with updates := b.updates ++ [outcome] } else b

/-- Shows an outcome, and sends it as an update if that was asked for, unless its ticket is not the
last one any more. -/
def publish (b : Board) (outcome : Outcome) (notify : Bool) : Bool × Board :=
  if b.isCurrent outcome.ticket then
    let b := { b with shown := some outcome }
    (true, if notify then b.send outcome else b)
  else (false, b)

/-- Takes the updates that were sent. -/
def receive (b : Board) : List Outcome × Board :=
  (b.updates, { b with updates := [] })

/-- Nobody receives updates any more. -/
def close (b : Board) : Board :=
  { b with isOpen := false, updates := [] }

end Board

end Launcher
