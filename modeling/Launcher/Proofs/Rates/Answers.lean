import Launcher.Proofs.Rates.Sound

namespace Launcher.Currency

/-!
# The snapshots that callers get

* `Event.handedOut?` — the snapshot that a caller gets, and its settings.
* `Bureau.Grounds` — the three ways to a snapshot: a cached one that is fresh, the one of the fetch
  that the caller waited for, and a cached one within the grace after that fetch has failed.
* `Bureau.HandsOutRight`, `Bureau.Chronicle` — an event that hands out a snapshot does it rightly
  after the events before it, and so does every event of a run.
* `Bureau.handedOut_grounds` — in every run each caller that gets a snapshot has a key, gets one of
  its own base, and gets it in one of these ways.

A ground is said of an event and of those before it, so it does not change when more happens later.
For this reason `Chronicle` speaks of all places in the list of events, and a step has to say
something about the event that it adds only. Two kinds of events hand out snapshots: a request that
is answered as soon as it begins, and a caller that leaves. That the fetch of a caller brought what
the caller learns, and was for its base, comes from `Bureau.Sound`.
-/

/-- The snapshot that a caller gets by an event, with the settings of the caller. -/
def Event.handedOut? : Event → Option (RateSettings × Snapshot)
  | .entered _ s _ (.ready c) => some (s, c)
  | .left w _ _ _ (.ok c) => some (w.settings, c)
  | _ => none

namespace Bureau

/-- The ways to a snapshot, after some events. -/
inductive Grounds (before : List Event) : Event → RateSettings → Snapshot → Prop where
  /-- The snapshot was not stale when it was looked at. -/
  | fresh (caller : Nat) (s : RateSettings) (time : Nat) (c : Snapshot)
      (hfresh : c.isStale time = false) :
      Grounds before (.entered caller s time (.ready c)) s c
  /-- The fetch that the caller waited for brought it. -/
  | fetched (w : Waiter) (time : Nat) (isOwner : Bool) (c : Snapshot) (hawaits : Awaits before w)
      (hend : ∃ t, Event.resolved w.generation t (.ok c) ∈ before) :
      Grounds before (.left w time (.ok c) isOwner (.ok c)) w.settings c
  /-- The fetch that the caller waited for failed, and the snapshot is within the grace. -/
  | fallback (w : Waiter) (time : Nat) (cause : FetchFault) (isOwner : Bool) (c : Snapshot)
      (hawaits : Awaits before w)
      (hend : ∃ t, Event.resolved w.generation t (.error cause) ∈ before)
      (hage : c.age time ≤ (c.ttl.toNat + w.settings.grace.toNat) * 1000) :
      Grounds before (.left w time (.error cause) isOwner (.ok c)) w.settings c

/-- If an event hands out a snapshot, then to a caller with a key, of its base, and on grounds. -/
def HandsOutRight (before : List Event) (e : Event) : Prop :=
  ∀ s c, e.handedOut? = some (s, c) → s.apiKey.isEmpty = false ∧ c.base = s.base ∧ Grounds before e s c

/-- Every event is right after those before it. -/
def Chronicle (events : List Event) : Prop :=
  ∀ before e after, events = before ++ e :: after → HandsOutRight before e

/-- What is added at the end has to be right after everything before it. -/
theorem Chronicle.append {events : List Event} (h : Chronicle events) {e : Event}
    (he : HandsOutRight events e) : Chronicle (events ++ [e]) := by
  intro before e' after heq
  rcases List.eq_nil_or_concat after with rfl | ⟨after', last, rfl⟩
  · -- Either the event in question is the new one, or it stood there before.
    obtain ⟨rfl, hlast⟩ := List.append_inj' heq rfl
    obtain rfl : e = e' := by simpa using hlast
    exact he
  · rw [List.concat_eq_append, ← List.cons_append, ← List.append_assoc] at heq
    obtain ⟨hevents, -⟩ := List.append_inj' heq rfl
    exact h before e' after' hevents

/-- An event that hands out nothing is right. -/
theorem handsOutRight_of_none {before : List Event} {e : Event} (h : e.handedOut? = none) :
    HandsOutRight before e := by
  intro s c hout
  rw [h] at hout
  simp at hout

/-- A request that is answered at once gets a fresh snapshot of its base. -/
theorem handsOutRight_served (b : Bureau) {s : RateSettings} (hkey : s.apiKey.isEmpty = false)
    {c : Snapshot} (hfresh : b.desk.state.fresh? s b.now = some c) :
    HandsOutRight b.events (.entered b.callers s b.now (.ready c)) := by
  intro s' c' hout
  -- Only this event hands out the cached snapshot, which is of the asked base.
  obtain ⟨rfl, rfl⟩ : s = s' ∧ c = c' := by simpa [Event.handedOut?] using hout
  obtain ⟨-, hbase, hstale⟩ := (b.desk.state.fresh?_eq_some_iff s).mp hfresh
  exact ⟨hkey, hbase, .fresh _ _ _ _ hstale⟩

/-- A caller that leaves with a snapshot has that of its fetch, or the fallback. -/
theorem handsOutRight_left {b : Bureau} (h : Sound b) {w : Waiter} (hw : w ∈ b.waiters)
    {o : Except FetchFault Snapshot} (ho : b.desk.outcome? w.generation = some o) :
    HandsOutRight b.events
      (.left w b.now o (b.desk.state.owns w.generation)
        (b.desk.leave w.settings w.generation o b.now).1) := by
  obtain ⟨hkey, -, hawaits⟩ := h.waiter w hw
  obtain ⟨hend, hlearned⟩ := h.learned hw ho
  intro s c hout
  -- Whether the caller owns the completion plays no part in what it gets.
  cases o with
  | ok c' =>
    have hresult : (b.desk.leave w.settings w.generation (.ok c') b.now).1 = .ok c' := by
      rw [Desk.leave_result, RateState.leave_ok]
    rw [hresult] at hout ⊢
    obtain ⟨rfl, rfl⟩ : w.settings = s ∧ c' = c := by simpa [Event.handedOut?] using hout
    exact ⟨hkey, hlearned c' rfl, .fetched w _ _ _ hawaits hend⟩
  | error cause =>
    have hresult : (b.desk.leave w.settings w.generation (.error cause) b.now).1 =
        b.desk.state.fallback w.settings cause b.now := by
      rw [Desk.leave_result, RateState.leave_error]
    rw [hresult] at hout ⊢
    cases hfall : b.desk.state.fallback w.settings cause b.now with
    | error fault => simp [hfall, Event.handedOut?] at hout
    | ok c' =>
      rw [hfall] at hout
      obtain ⟨rfl, rfl⟩ : w.settings = s ∧ c' = c := by simpa [Event.handedOut?] using hout
      obtain ⟨-, hbase, hage⟩ := b.desk.state.fallback_eq_ok w.settings hfall
      exact ⟨hkey, hbase, .fallback w _ _ _ _ hawaits hend hage⟩

/-- **Every step adds a right event**, or none. -/
theorem Chronicle.of_step {b b' : Bureau} {a : Action} (h : Chronicle b.events) (hsound : Sound b)
    (hstep : Step b a b') : Chronicle b'.events := by
  cases hstep with
  | refused s _ => exact h.append (handsOutRight_of_none rfl)
  | served s hkey c hfresh => exact h.append (handsOutRight_served b hkey hfresh)
  | joined s _ _ i _ _ => exact h.append (handsOutRight_of_none rfl)
  | started s _ _ _ => exact h.append (handsOutRight_of_none rfl)
  | resolved f answer _ _ => exact h.append (handsOutRight_of_none rfl)
  | left w hw outcome ho => exact h.append (handsOutRight_left hsound (waiter?_eq_some hw).1 ho)
  | abandoned caller => exact h
  | waited ms => exact h

/-- So all events of a run are right. -/
theorem chronicle_run (script : Script) (actions : List Action) :
    Chronicle ((opened script).run actions).events := by
  have h : Sound ((opened script).run actions) ∧ Chronicle ((opened script).run actions).events := by
    refine run_induction (Q := fun _ => True) (P := fun b => Sound b ∧ Chronicle b.events) ?_
      ⟨sound_opened script, ?_⟩ (fun _ _ => trivial)
    · intro b a b' _ hb hstep
      exact ⟨hb.1.of_step hstep, hb.2.of_step hb.1 hstep⟩
    · intro before e after heq
      simp [opened] at heq
  exact h.2

/-- **Every snapshot handed out is right for its caller.** Whatever the callers, the source and the
clock do, a caller that gets a snapshot has a key, the snapshot is of the base it asked for, and
it was fresh, or the caller's own fetch brought it, or that fetch failed and it is within the
grace. -/
theorem handedOut_grounds (script : Script) (actions : List Action) (before after : List Event)
    (e : Event) (s : RateSettings) (c : Snapshot)
    (hevents : ((opened script).run actions).events = before ++ e :: after)
    (hout : e.handedOut? = some (s, c)) :
    s.apiKey ≠ "" ∧ c.base = s.base ∧ Grounds before e s c := by
  obtain ⟨hkey, hbase, hgrounds⟩ := chronicle_run script actions before e after hevents s c hout
  refine ⟨?_, hbase, hgrounds⟩
  intro hempty
  rw [hempty] at hkey
  simp at hkey

/-- A run in which a request for another base comes in between: the first caller gets the snapshot of its
own fetch all the same. -/
theorem handedOut_grounds_superseded :
    let dollars : RateSettings := ⟨"key", "USD", 60, 600⟩
    let euros : RateSettings := ⟨"key", "EUR", 60, 600⟩
    let snapshot : Snapshot := ⟨"USD", [], 200, 60⟩
    let events := ((opened ⟨[]⟩).run
      [.call dollars, .call euros, .wait 200, .answer 1 (.ok []), .resume 0]).events
    let e := Event.left ⟨0, dollars, 1⟩ 200 (.ok snapshot) false (.ok snapshot)
    events = events.take 3 ++ e :: [] ∧ e.handedOut? = some (dollars, snapshot) ∧
      dollars.apiKey ≠ "" ∧ snapshot.base = dollars.base ∧
      Grounds (events.take 3) e dollars snapshot := by
  intro dollars euros snapshot events e
  have hevents : events = events.take 3 ++ e :: [] := rfl
  have hout : e.handedOut? = some (dollars, snapshot) := rfl
  exact ⟨hevents, hout, handedOut_grounds ⟨[]⟩ _ _ _ e dollars snapshot hevents hout⟩

end Bureau

end Launcher.Currency
