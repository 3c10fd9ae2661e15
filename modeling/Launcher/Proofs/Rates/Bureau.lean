import Launcher.Proofs.Rates.Desk

namespace Launcher.Currency

/-!
# The desk under every interleaving of its callers

* `Bureau` — the desk, the clock, the callers that wait, and what has happened so far.
* `Bureau.act`, `Bureau.run` — one action of one party, and any list of actions: callers come and
  go, fetches end with any answer at any time, and time passes. An action that is not possible
  changes nothing, so every list of actions is a run.
* `Bureau.Step`, `Bureau.act_cases` — what an action can come to.
* `Bureau.run_induction` — what steps keep holds after every run.

A request begins under the lock of the state, waits without it, and ends under it again; so its
beginning and its end are one action each, and all else may happen in between.

The events are what the theorems speak of. They are not part of the program: they are written down
by the actions, and no action looks at them. A caller is known by its number, since two callers may
have the same settings and wait for the same fetch.

No later proof opens `act`. It is taken apart in `act_cases` once, into the eight ways in which
something can change, and an invariant is proved by one case for each of them.
-/

/-- The fetch that a request waits for if it begins in this way. -/
def Entry.awaited? : Entry → Option Nat
  | .join generation | .start generation => some generation
  | .refused | .ready _ => none

/-- A caller that waits for the fetch of a generation. -/
structure Waiter where
  caller : Nat
  settings : RateSettings
  generation : Nat

/-- What has happened at a bureau. -/
inductive Event where
  /-- A caller came, and its request began. -/
  | entered (caller : Nat) (settings : RateSettings) (time : Nat) (entry : Entry)
  /-- The fetch of a generation ended. -/
  | resolved (generation : Nat) (time : Nat) (outcome : Except FetchFault Snapshot)
  /-- A caller learned the outcome of its fetch and left with a result. It owned the completion if
  requests still waited for that fetch. -/
  | left (waiter : Waiter) (time : Nat) (outcome : Except FetchFault Snapshot) (isOwner : Bool)
      (result : Except Fault Snapshot)

/-- The desk, the clock, the callers that wait, and what has happened so far. -/
structure Bureau where
  desk : Desk
  now : Nat := 0
  waiters : List Waiter := []
  /-- The number of callers that have come. -/
  callers : Nat := 0
  events : List Event := []

namespace Bureau

/-- An action of one party. -/
inductive Action where
  /-- A caller asks for rates. -/
  | call (settings : RateSettings)
  /-- The source answers the fetch of a generation. -/
  | answer (generation : Nat) (answer : Except FetchFault Rates)
  /-- A caller that waits learns the outcome of its fetch. -/
  | resume (caller : Nat)
  /-- A caller goes away while it waits. -/
  | abandon (caller : Nat)
  /-- Some milliseconds pass. -/
  | wait (ms : Nat)

/-- A bureau where nothing has happened. -/
def opened (script : Script) : Bureau where
  desk := { script }

/-- The waiting caller of a number. -/
def waiter? (b : Bureau) (caller : Nat) : Option Waiter :=
  b.waiters.find? (·.caller == caller)

/-- The callers that wait when one of them has gone. -/
def others (b : Bureau) (caller : Nat) : List Waiter :=
  b.waiters.filter (·.caller != caller)

/-- The bureau when a request has begun: its caller waits if it has to. -/
def admitted (b : Bureau) (s : RateSettings) (entry : Entry) : Bureau :=
  { b with
    waiters := b.waiters ++ (entry.awaited?.map (Waiter.mk b.callers s)).toList
    callers := b.callers + 1
    events := b.events ++ [.entered b.callers s b.now entry] }

/-- The bureau when a request has begun by starting the next fetch. -/
def started (b : Bureau) (s : RateSettings) : Bureau :=
  { b.admitted s (.start (b.desk.state.generation + 1)) with desk := b.desk.startNext s b.now }

/-- A caller asks for rates. -/
def call (b : Bureau) (s : RateSettings) : Bureau :=
  { b.admitted s (b.desk.state.enter s b.now).1 with desk := (b.desk.enter s b.now).2 }

/-- The bureau when the source has answered a fetch. -/
def answered (b : Bureau) (f : Fetch) (answer : Except FetchFault Rates) : Bureau :=
  { b with
    desk := b.desk.resolve f.generation answer b.now
    events := b.events ++ [.resolved f.generation b.now (f.outcomeOf answer b.now)] }

/-- The source answers the fetch of a generation, unless that has ended. -/
def answer (b : Bureau) (generation : Nat) (answer : Except FetchFault Rates) : Bureau :=
  match b.desk.fetch? generation with
  | none => b
  | some f => if f.outcome.isNone then b.answered f answer else b

/-- The bureau when a caller that waited has left with the outcome of its fetch. -/
def dismissed (b : Bureau) (w : Waiter) (outcome : Except FetchFault Snapshot) : Bureau :=
  let (result, desk) := b.desk.leave w.settings w.generation outcome b.now
  { b with
    desk
    waiters := b.others w.caller
    events := b.events ++ [.left w b.now outcome (b.desk.state.owns w.generation) result] }

/-- A caller that waits learns the outcome of its fetch, if that has ended, and leaves. -/
def resume (b : Bureau) (caller : Nat) : Bureau :=
  match b.waiter? caller with
  | none => b
  | some w =>
    match b.desk.outcome? w.generation with
    | none => b
    | some outcome => b.dismissed w outcome

/-- Takes an action. -/
def act (b : Bureau) : Action → Bureau
  | .call s => b.call s
  | .answer generation answer => b.answer generation answer
  | .resume caller => b.resume caller
  | .abandon caller => { b with waiters := b.others caller }
  | .wait ms => { b with now := b.now + ms }

/-- Takes actions in order. -/
def run (b : Bureau) (actions : List Action) : Bureau :=
  actions.foldl act b

@[simp] theorem run_nil (b : Bureau) : b.run [] = b := rfl

@[simp] theorem run_cons (b : Bureau) (a : Action) (actions : List Action) :
    b.run (a :: actions) = (b.act a).run actions := rfl

/-- A list of actions can be taken in two parts. -/
theorem run_append (b : Bureau) (actions later : List Action) :
    b.run (actions ++ later) = (b.run actions).run later :=
  List.foldl_append

/-- Who waits after a request has begun waited before, or is its caller. -/
theorem mem_waiters_admitted {b : Bureau} {s : RateSettings} {entry : Entry} {w : Waiter} :
    w ∈ (b.admitted s entry).waiters ↔
      w ∈ b.waiters ∨ ∃ g, entry.awaited? = some g ∧ Waiter.mk b.callers s g = w := by
  simp only [admitted, List.mem_append, Option.mem_toList, Option.map_eq_some_iff]

/-- Who waits without one of the callers waited with it. -/
theorem mem_others {b : Bureau} {caller : Nat} {w : Waiter} (h : w ∈ b.others caller) :
    w ∈ b.waiters :=
  List.mem_of_mem_filter h

@[simp] theorem admitted_events (b : Bureau) (s : RateSettings) (entry : Entry) :
    (b.admitted s entry).events = b.events ++ [.entered b.callers s b.now entry] := rfl

@[simp] theorem started_events (b : Bureau) (s : RateSettings) :
    (b.started s).events =
      b.events ++ [.entered b.callers s b.now (.start (b.desk.state.generation + 1))] := rfl

@[simp] theorem answered_events (b : Bureau) (f : Fetch) (answer : Except FetchFault Rates) :
    (b.answered f answer).events =
      b.events ++ [.resolved f.generation b.now (f.outcomeOf answer b.now)] := rfl

@[simp] theorem dismissed_events (b : Bureau) (w : Waiter) (outcome : Except FetchFault Snapshot) :
    (b.dismissed w outcome).events =
      b.events ++ [.left w b.now outcome (b.desk.state.owns w.generation)
        (b.desk.leave w.settings w.generation outcome b.now).1] := rfl

@[simp] theorem started_desk (b : Bureau) (s : RateSettings) :
    (b.started s).desk = b.desk.startNext s b.now := rfl

theorem dismissed_state (b : Bureau) (w : Waiter) (outcome : Except FetchFault Snapshot) :
    (b.dismissed w outcome).desk.state =
      (b.desk.state.leave w.settings w.generation outcome b.now).2 := rfl

/-- After a caller has left, requests wait for the same fetch as before, unless that was its own. -/
theorem inFlight_dismissed_iff {b : Bureau} {w : Waiter} {o : Except FetchFault Snapshot}
    {i : InFlight} : (b.dismissed w o).desk.state.inFlight = some i ↔
      b.desk.state.inFlight = some i ∧ i.generation ≠ w.generation :=
  RateState.leave_inFlight_iff _ _

/-! ### What an action can come to -/

/-- What an action comes to if it changes anything. A request begins in one of four ways. -/
inductive Step (b : Bureau) : Action → Bureau → Prop where
  | refused (s : RateSettings) (hkey : s.apiKey.isEmpty = true) :
      Step b (.call s) (b.admitted s .refused)
  | served (s : RateSettings) (hkey : s.apiKey.isEmpty = false) (c : Snapshot)
      (hfresh : b.desk.state.fresh? s b.now = some c) :
      Step b (.call s) (b.admitted s (.ready c))
  | joined (s : RateSettings) (hkey : s.apiKey.isEmpty = false)
      (hfresh : b.desk.state.fresh? s b.now = none) (i : InFlight)
      (hslot : b.desk.state.inFlight = some i) (hbase : i.base = s.base) :
      Step b (.call s) (b.admitted s (.join i.generation))
  | started (s : RateSettings) (hkey : s.apiKey.isEmpty = false)
      (hfresh : b.desk.state.fresh? s b.now = none)
      (hslot : ∀ i, b.desk.state.inFlight = some i → i.base ≠ s.base) :
      Step b (.call s) (b.started s)
  | resolved (f : Fetch) (answer : Except FetchFault Rates)
      (hf : b.desk.fetch? f.generation = some f) (hopen : f.outcome = none) :
      Step b (.answer f.generation answer) (b.answered f answer)
  | left (w : Waiter) (hw : b.waiter? w.caller = some w) (outcome : Except FetchFault Snapshot)
      (ho : b.desk.outcome? w.generation = some outcome) :
      Step b (.resume w.caller) (b.dismissed w outcome)
  | abandoned (caller : Nat) : Step b (.abandon caller) { b with waiters := b.others caller }
  | waited (ms : Nat) : Step b (.wait ms) { b with now := b.now + ms }

/-- A caller that is found waits, and has the number. -/
theorem waiter?_eq_some {b : Bureau} {caller : Nat} {w : Waiter} (h : b.waiter? caller = some w) :
    w ∈ b.waiters ∧ w.caller = caller :=
  ⟨List.mem_of_find?_eq_some h, by simpa using List.find?_some h⟩

/-- A request begins in one of the four ways. -/
theorem call_step (b : Bureau) (s : RateSettings) : Step b (.call s) (b.call s) := by
  rcases b.desk.state.enter_cases s b.now with
    ⟨hkey, h⟩ | ⟨hkey, c, hfresh, h⟩ | ⟨hkey, hfresh, i, hslot, hbase, h⟩ | ⟨hkey, hfresh, hslot, h⟩
  · simp only [call, Desk.enter, h]
    exact .refused s hkey
  · simp only [call, Desk.enter, h]
    exact .served s hkey c hfresh
  · simp only [call, Desk.enter, h]
    exact .joined s hkey hfresh i hslot hbase
  · simp only [call, Desk.enter, h]
    exact .started s hkey hfresh hslot

/-- **What an action can come to.** It changes nothing, or it is a step. -/
theorem act_cases (b : Bureau) (a : Action) : b.act a = b ∨ Step b a (b.act a) := by
  cases a with
  | call s => exact .inr (b.call_step s)
  | answer g answer =>
    show b.answer g answer = b ∨ Step b _ (b.answer g answer)
    unfold Bureau.answer
    split
    · exact .inl rfl
    · rename_i f hf
      split
      · rename_i hopen
        obtain ⟨-, rfl⟩ := b.desk.fetch?_eq_some hf
        exact .inr (.resolved f answer hf (Option.isNone_iff_eq_none.mp hopen))
      · exact .inl rfl
  | resume caller =>
    show b.resume caller = b ∨ Step b _ (b.resume caller)
    unfold Bureau.resume
    split
    · exact .inl rfl
    · rename_i w hw
      split
      · exact .inl rfl
      · rename_i outcome ho
        obtain ⟨-, rfl⟩ := waiter?_eq_some hw
        exact .inr (.left w hw outcome ho)
  | abandon caller => exact .inr (.abandoned caller)
  | wait ms => exact .inr (.waited ms)

/-- What the steps of some actions keep holds after every run of these actions. -/
theorem run_induction {P : Bureau → Prop} {Q : Action → Prop}
    (step : ∀ b a b', Q a → P b → Step b a b' → P b') {b : Bureau} (h : P b)
    {actions : List Action} (hq : ∀ a ∈ actions, Q a) : P (b.run actions) := by
  refine List.foldlRecOn actions act h ?_
  intro b hb a ha
  rcases b.act_cases a with heq | hstep
  · rw [heq]
    exact hb
  · exact step b a _ (hq a ha) hb hstep

end Bureau

end Launcher.Currency
