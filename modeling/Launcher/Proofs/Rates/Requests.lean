import Launcher.Currency.Requests
import Launcher.Proofs.Rates.Sound

namespace Launcher.Currency

/-!
# What is asked of a desk is a run

The program does not know actions. It begins requests, looks at them again, and lets time pass; a
look settles the fetch of the request if it is due, and lets the request end if its fetch has ended.
The theorems about bureaus hold for every run, so they hold for the program once everything that it
asks of a desk is shown to happen in a run.

* `Counter` — a desk, the clock, and the requests of its callers.
* `Counter.call`, `Counter.calls` — one operation of the desk, and any list of them.
* `Bureau.Numbered` — callers that wait can be told apart by their numbers.
* `Bureau.exists_settle` — a look at a fetch is an action of its source, or none.
* `Bureau.Serves` — a bureau at which the same has happened as at a counter.
* `Bureau.Serves.call` — one operation of the counter is some actions of the bureau.
* `Counter.calls_finish` — requests that are carried out together are a list of operations.
* `Counter.served` — whatever is asked of a new desk happens in a run.

`Serves` is a simulation relation. The desk and the clock are the same on both sides. A request that
waits at the counter is a waiting caller of the bureau; one that has ended at the counter has an
event at the bureau, which says that just this result was given to just this caller. The relation is
kept by showing, for each operation, the actions that it stands for: to begin is one action, and to
look again is at most two, the answer of the source and the end of the caller's wait.

For the second of these the caller must be found by its number, which is why numbers have to be
different; and to answer a fetch changes that fetch only, which is why generations have to be, too.
-/

/-- A desk, the clock, and the requests of its callers in the order in which they came. -/
structure Counter where
  desk : Desk
  now : Nat := 0
  requests : List Request := []

namespace Counter

/-- An operation of a desk. -/
inductive Call where
  /-- A request begins. -/
  | enter (settings : RateSettings)
  /-- Looks again at the request of a caller. -/
  | again (caller : Nat)
  | wait (ms : Nat)

/-- A new desk, without requests. -/
def opened (script : Script) : Counter where
  desk := { script }

/-- Does an operation. -/
def call (c : Counter) : Call → Counter
  | .enter s =>
    let (progress, desk) := c.desk.enter s c.now
    { c with desk, requests := c.requests ++ [⟨s, progress⟩] }
  | .again caller =>
    match c.requests[caller]? with
    | none => c
    | some r =>
      let (r, desk) := c.desk.again r c.now
      { c with desk, requests := c.requests.set caller r }
  | .wait ms => { c with now := c.now + ms }

/-- Does operations in order. -/
def calls (c : Counter) (ops : List Call) : Counter :=
  ops.foldl call c

theorem again_of_none {c : Counter} {caller : Nat} (h : c.requests[caller]? = none) :
    c.call (.again caller) = c := by
  simp only [call, h]

/-- A look changes the desk, and the request that is looked at. -/
theorem again_of_some {c : Counter} {caller : Nat} {r : Request}
    (h : c.requests[caller]? = some r) :
    c.call (.again caller) =
      { c with
        desk := (c.desk.again r c.now).2
        requests := c.requests.set caller (c.desk.again r c.now).1 } := by
  simp only [call, h]

end Counter

namespace Bureau

variable {b b' : Bureau}

/-! ### Numbers of callers -/

/-- Callers that wait have different numbers, which were given to them. -/
structure Numbered (b : Bureau) : Prop where
  nodup : (b.waiters.map (·.caller)).Nodup
  lt : ∀ w ∈ b.waiters, w.caller < b.callers

namespace Numbered

/-- The next caller has a number above all others. -/
theorem admitted (h : Numbered b) (s : RateSettings) (entry : Entry) :
    Numbered (b.admitted s entry) := by
  have hlt : ∀ w ∈ (b.admitted s entry).waiters, w.caller < b.callers + 1 := by
    intro w hw
    rcases mem_waiters_admitted.mp hw with hold | ⟨g, -, rfl⟩
    · exact Nat.lt_succ_of_lt (h.lt w hold)
    · exact Nat.lt_succ_self _
  refine ⟨?_, hlt⟩
  show ((b.waiters ++ _).map Waiter.caller).Nodup
  -- Only one number is new, if any, and those before it were given to others.
  rw [List.map_append, List.nodup_append]
  refine ⟨h.nodup, ?_, ?_⟩
  · cases entry.awaited? with
    | none => exact List.Pairwise.nil
    | some g => exact List.pairwise_singleton _ _
  · intro caller hcaller new hnew
    obtain ⟨w, hw, rfl⟩ := List.mem_map.mp hcaller
    obtain ⟨w', hw', rfl⟩ := List.mem_map.mp hnew
    obtain ⟨g, -, rfl⟩ := Option.map_eq_some_iff.mp (Option.mem_toList.mp hw')
    exact Nat.ne_of_lt (h.lt w hw)

/-- Numbers stay different when a caller goes. -/
theorem of_others (h : Numbered b) {caller : Nat} (hwaiters : b'.waiters = b.others caller)
    (hcallers : b'.callers = b.callers) : Numbered b' := by
  refine ⟨?_, ?_⟩
  · rw [hwaiters]
    exact h.nodup.sublist (List.filter_sublist.map _)
  · intro w hw
    rw [hwaiters] at hw
    rw [hcallers]
    exact h.lt w (mem_others hw)

/-- **Every step keeps the numbers apart.** -/
theorem of_step {a : Action} (h : Numbered b) (hstep : Step b a b') : Numbered b' := by
  cases hstep with
  | refused s | served s | joined s => exact h.admitted s _
  | started s =>
    have hadmitted := h.admitted s (.start (b.desk.state.generation + 1))
    exact ⟨hadmitted.nodup, hadmitted.lt⟩
  | resolved | waited => exact ⟨h.nodup, h.lt⟩
  | left | abandoned => exact h.of_others rfl rfl

/-- A caller that waits is found by its number. -/
theorem waiter?_eq (h : Numbered b) {w : Waiter} (hw : w ∈ b.waiters) :
    b.waiter? w.caller = some w := by
  cases hfind : b.waiter? w.caller with
  | none =>
    have hnone := List.find?_eq_none.mp hfind w hw
    simp at hnone
  | some w' =>
    obtain ⟨hmem, hcaller⟩ := waiter?_eq_some hfind
    rw [List.inj_on_of_nodup_map h.nodup hmem hw hcaller]

end Numbered

/-! ### Looks at a fetch -/

/-- A look at a fetch ends it if it is due and has not ended. -/
theorem settle_eq (h : Sound b) {f : Fetch} (hf : f ∈ b.desk.fetches) :
    b.desk.settle f.generation b.now =
      if f.due ≤ b.now ∧ f.outcome = none then b.desk.resolve f.generation f.answer b.now
      else b.desk := by
  -- Only the fetch itself has its generation.
  have hmap (g : Fetch → Fetch) : b.desk.fetches.map (fun f' =>
      if f'.generation = f.generation then g f' else f') =
        b.desk.fetches.map fun f' => if f'.generation = f.generation then g f else f' := by
    apply List.map_congr_left
    intro f' hf'
    by_cases heq : f'.generation = f.generation
    · rw [if_pos heq, if_pos heq, h.fetch_eq hf' hf heq]
    · rw [if_neg heq, if_neg heq]
  -- Without a change the list is the same one.
  have hsame : b.desk.fetches.map (fun f' =>
      if f'.generation = f.generation then f else f') = b.desk.fetches := by
    rw [hmap fun _ => f, ← hmap fun f' => f']
    simp
  unfold Desk.settle Desk.resolve
  rw [hmap (·.settle b.now), hmap (·.resolve f.answer b.now)]
  unfold Fetch.settle
  by_cases hdue : f.due ≤ b.now
  · cases hopen : f.outcome with
    | none => simp only [hdue, true_and, if_true]
    | some o =>
      have hres : f.resolve f.answer b.now = f := by simp [Fetch.resolve, hopen]
      simp only [hdue, if_true, hres, hsame]
      simp
  · simp only [hdue, if_false, false_and, hsame]

/-- A look at a fetch is an action of its source or none. -/
theorem exists_settle (h : Sound b) {f : Fetch} (hf : f ∈ b.desk.fetches) :
    ∃ actions, (b.run actions).desk = b.desk.settle f.generation b.now ∧
      (b.run actions).now = b.now ∧ (b.run actions).waiters = b.waiters ∧
      (b.run actions).callers = b.callers ∧ b.events ⊆ (b.run actions).events := by
  rw [settle_eq h hf]
  by_cases hends : f.due ≤ b.now ∧ f.outcome = none
  · -- The action is possible, since the fetch is found and is still open.
    have hact : b.act (.answer f.generation f.answer) = b.answered f f.answer := by
      show b.answer f.generation f.answer = _
      unfold answer
      simp only [h.fetch?_eq hf, hends.2, Option.isNone_none, if_true]
    refine ⟨[.answer f.generation f.answer], ?_⟩
    rw [run_cons, run_nil, hact, if_pos hends]
    exact ⟨rfl, rfl, rfl, rfl, List.subset_append_left _ _⟩
  · rw [if_neg hends]
    exact ⟨[], rfl, rfl, rfl, rfl, List.Subset.refl _⟩

end Bureau

/-! ### Counters -/

/-- What a caller gets by an event, with its number and its settings. -/
def Event.returned? : Event → Option (Nat × RateSettings × Except Fault Snapshot)
  | .entered caller s _ .refused => some (caller, s, .error .notConfigured)
  | .entered caller s _ (.ready c) => some (caller, s, .ok c)
  | .left w _ _ _ result => some (w.caller, w.settings, result)
  | _ => none

namespace Bureau

variable {b b' : Bureau} {c : Counter}

/-- A request of a caller stands at a bureau as it does at a counter. -/
def Stands (b : Bureau) (caller : Nat) (r : Request) : Prop :=
  match r.progress with
  | .waiting generation => ⟨caller, r.settings, generation⟩ ∈ b.waiters
  | .ended result => ∃ e ∈ b.events, e.returned? = some (caller, r.settings, result)

/-- A request stands where it stood if its caller still waits and no event is lost. -/
theorem Stands.mono {caller : Nat} {r : Request} (h : b.Stands caller r)
    (hwaiters : ∀ w ∈ b.waiters, w.caller = caller → w ∈ b'.waiters)
    (hevents : b.events ⊆ b'.events) : b'.Stands caller r := by
  obtain ⟨settings, progress⟩ := r
  cases progress with
  | waiting generation => exact hwaiters _ h rfl
  | ended result =>
    obtain ⟨e, he, hreturned⟩ := h
    exact ⟨e, hevents he, hreturned⟩

/-- A bureau at which the same has happened as at a counter. -/
structure Serves (b : Bureau) (c : Counter) : Prop where
  sound : Sound b
  numbered : Numbered b
  desk : b.desk = c.desk
  now : b.now = c.now
  callers : b.callers = c.requests.length
  stands : ∀ caller r, c.requests[caller]? = some r → b.Stands caller r

/-- What a request that has begun waits for or has come to. -/
theorem enter_progress (d : Desk) (s : RateSettings) (now : Nat) :
    (d.enter s now).1 = match (d.state.enter s now).1 with
      | .refused => .ended (.error .notConfigured)
      | .ready snapshot => .ended (.ok snapshot)
      | .join generation | .start generation => .waiting generation := by
  unfold Desk.enter
  rcases d.state.enter s now with ⟨entry, state⟩
  cases entry <;> rfl

/-- Numbers are different in every run. -/
theorem Numbered.run (h : Numbered b) (actions : List Action) : Numbered (b.run actions) :=
  run_induction (Q := fun _ => True) (fun _ _ _ _ hb hstep => hb.of_step hstep) h
    (fun _ _ => trivial)

namespace Serves

/-- A request begins in one action. -/
theorem enter (h : Serves b c) (s : RateSettings) :
    Serves (b.act (.call s)) (c.call (.enter s)) := by
  have hdesk : (b.act (.call s)).desk = (c.desk.enter s c.now).2 := by
    show (b.desk.enter s b.now).2 = _
    rw [h.desk, h.now]
  refine
    { sound := h.sound.run [.call s]
      numbered := h.numbered.run [.call s]
      desk := hdesk
      now := h.now
      callers := ?callers
      stands := ?stands }
  case callers =>
    show b.callers + 1 = (c.requests ++ [_]).length
    rw [List.length_append, h.callers]
    rfl
  -- The requests of others stand as they did; that of the new caller is the last one.
  case stands =>
    intro caller r hr
    have hr : (c.requests ++ [⟨s, (c.desk.enter s c.now).1⟩])[caller]? = some r := hr
    rcases Nat.lt_or_ge caller c.requests.length with hlt | hge
    · rw [List.getElem?_append_left hlt] at hr
      exact (h.stands caller r hr).mono (fun w hw _ => List.mem_append_left _ hw)
        (List.subset_append_left _ _)
    · rw [List.getElem?_append_right hge, List.getElem?_singleton] at hr
      split at hr
      · rename_i hzero
        obtain rfl := Option.some.inj hr
        obtain rfl : caller = b.callers := by
          rw [h.callers]
          omega
        unfold Stands
        rw [← h.desk, ← h.now, enter_progress]
        have hwaiters : ∀ g, (b.desk.state.enter s b.now).1.awaited? = some g →
            (⟨b.callers, s, g⟩ : Waiter) ∈ (b.act (.call s)).waiters :=
          fun g hg => mem_waiters_admitted.mpr (.inr ⟨g, hg, rfl⟩)
        have hevent : Event.entered b.callers s b.now (b.desk.state.enter s b.now).1 ∈
            (b.act (.call s)).events :=
          List.mem_append_right _ (List.mem_singleton.mpr rfl)
        -- How the request began says whether its caller waits or has a result.
        generalize (b.desk.state.enter s b.now).1 = entry at hwaiters hevent
        cases entry with
        | refused | ready => exact ⟨_, hevent, rfl⟩
        | join g | start g => exact hwaiters g rfl
      · simp at hr

/-- The request of one caller has been looked at. -/
theorem of_look (h : Serves b c) {caller : Nat} {r : Request} (hsound : Sound b')
    (hnumbered : Numbered b') (hnow : b'.now = b.now) (hcallers : b'.callers = b.callers)
    (hwaiters : ∀ w ∈ b.waiters, w.caller ≠ caller → w ∈ b'.waiters) (hevents : b.events ⊆ b'.events)
    (hstands : b'.Stands caller r) :
    Serves b' { c with desk := b'.desk, requests := c.requests.set caller r } where
  sound := hsound
  numbered := hnumbered
  desk := rfl
  now := hnow.trans h.now
  callers := by
    rw [hcallers, h.callers]
    exact (List.length_set ..).symm
  stands := by
    intro other r' hr'
    -- Only the request that was looked at stands in a new way.
    by_cases hother : caller = other
    · rw [← hother] at hr' ⊢
      have hlt : caller < c.requests.length := by
        have hsome := (List.getElem?_eq_some_iff.mp hr').1
        rwa [List.length_set] at hsome
      rw [List.getElem?_set_self hlt] at hr'
      obtain rfl := Option.some.inj hr'
      exact hstands
    · rw [List.getElem?_set_ne hother] at hr'
      exact (h.stands other r' hr').mono
        (fun w hw hcaller => hwaiters w hw (hcaller ▸ Ne.symm hother)) hevents

/-- A look at a request is one action of the source and one of the caller at most. -/
theorem again (h : Serves b c) (caller : Nat) :
    ∃ actions, Serves (b.run actions) (c.call (.again caller)) := by
  rcases hr : c.requests[caller]? with _ | ⟨s, result | g⟩
  · rw [Counter.again_of_none hr]
    exact ⟨[], h⟩
  · have hlook := h.of_look h.sound h.numbered rfl rfl (fun _ hw _ => hw) (List.Subset.refl _)
      (h.stands caller _ hr)
    rw [h.desk] at hlook
    rw [Counter.again_of_some hr]
    exact ⟨[], hlook⟩
  · -- The caller waits at the bureau for a fetch that was started.
    have hw : ⟨caller, s, g⟩ ∈ b.waiters := h.stands caller _ hr
    obtain ⟨-, ⟨f, hf, hg, -⟩, -⟩ := h.sound.waiter _ hw
    obtain rfl : f.generation = g := hg
    obtain ⟨actions, hdesk, hnow, hwaiters, hcallers, hevents⟩ := exists_settle h.sound hf
    have hsound := h.sound.run actions
    have hnumbered := h.numbered.run actions
    rw [h.desk, h.now] at hdesk
    rw [← hwaiters] at hw
    have hothers : ∀ w ∈ b.waiters, w.caller ≠ caller → w ∈ (b.run actions).waiters :=
      fun w hw _ => hwaiters ▸ hw
    rw [Counter.again_of_some hr]
    cases ho : (b.run actions).desk.outcome? f.generation with
    | none =>
      -- The fetch goes on, and the caller waits as before.
      have hagain : c.desk.again ⟨s, .waiting f.generation⟩ c.now =
          (⟨s, .waiting f.generation⟩, (b.run actions).desk) := by
        simp only [Desk.again, Desk.poll, ← hdesk, ho]
      rw [hagain]
      exact ⟨actions, h.of_look hsound hnumbered hnow hcallers hothers hevents hw⟩
    | some outcome =>
      -- The fetch has ended, so one more action lets the caller leave.
      have hact : b.run (actions ++ [.resume caller]) =
          (b.run actions).dismissed ⟨caller, s, f.generation⟩ outcome := by
        have hfind := hnumbered.waiter?_eq hw
        rw [run_append, run_cons, run_nil]
        show (b.run actions).resume caller = _
        unfold resume
        simp only [hfind, ho]
      have hagain : c.desk.again ⟨s, .waiting f.generation⟩ c.now =
          (⟨s, .ended ((b.run actions).desk.leave s f.generation outcome (b.run actions).now).1⟩,
            ((b.run actions).dismissed ⟨caller, s, f.generation⟩ outcome).desk) := by
        simp only [Desk.again, Desk.poll, ← hdesk, ho, dismissed, hnow, h.now]
      refine ⟨actions ++ [.resume caller], ?_⟩
      have hsound' := h.sound.run (actions ++ [.resume caller])
      have hnumbered' := h.numbered.run (actions ++ [.resume caller])
      rw [hact] at hsound' hnumbered' ⊢
      rw [hagain]
      refine h.of_look hsound' hnumbered' hnow hcallers ?_ ?_ ?_
      · intro w hw hne
        exact List.mem_filter.mpr ⟨hothers w hw hne, by simpa using hne⟩
      · exact fun e he => List.mem_append_left _ (hevents he)
      · exact ⟨_, List.mem_append_right _ (List.mem_singleton.mpr rfl), rfl⟩

/-- **Whatever is asked of a desk happens at a bureau.** -/
theorem call (h : Serves b c) (op : Counter.Call) :
    ∃ actions, Serves (b.run actions) (c.call op) := by
  cases op with
  | enter s => exact ⟨[.call s], h.enter s⟩
  | again caller => exact h.again caller
  | wait ms =>
    refine ⟨[.wait ms], h.sound.run [.wait ms], h.numbered.run [.wait ms], h.desk, ?_, h.callers,
      h.stands⟩
    show b.now + ms = c.now + ms
    rw [h.now]

/-- So it is for any operations, one after the other. -/
theorem calls (h : Serves b c) (ops : List Counter.Call) :
    ∃ actions, Serves (b.run actions) (c.calls ops) := by
  induction ops generalizing b c with
  | nil => exact ⟨[], h⟩
  | cons op ops ih =>
    obtain ⟨first, hfirst⟩ := h.call op
    obtain ⟨rest, hrest⟩ := ih hfirst
    refine ⟨first ++ rest, ?_⟩
    rw [run_append]
    exact hrest

end Serves

end Bureau

/-! ### Requests from beginning to end -/

namespace Counter

/-- Operations can be done in two parts. -/
theorem calls_append (c : Counter) (ops later : List Call) :
    c.calls (ops ++ later) = (c.calls ops).calls later :=
  List.foldl_append

/-- The beginning of a request and the first look at it are two operations. -/
theorem calls_look (c : Counter) (s : RateSettings) :
    c.calls [.enter s, .again c.requests.length] =
      { c with
        desk := (c.desk.look s c.now).2
        requests := c.requests ++ [⟨s, (c.desk.look s c.now).1⟩] } := by
  show (c.call (.enter s)).call (.again c.requests.length) = _
  -- The request that has just begun is the last one.
  have hfound : (c.call (.enter s)).requests[c.requests.length]? =
      some ⟨s, (c.desk.enter s c.now).1⟩ :=
    List.getElem?_concat_length
  rw [again_of_some hfound]
  show Counter.mk ((c.desk.enter s c.now).2.again ⟨s, (c.desk.enter s c.now).1⟩ c.now).2 c.now
    ((c.requests ++ [Request.mk s (c.desk.enter s c.now).1]).set c.requests.length
      ((c.desk.enter s c.now).2.again ⟨s, (c.desk.enter s c.now).1⟩ c.now).1) = _
  rw [List.set_append_right _ _ (Nat.le_refl _), Nat.sub_self]
  unfold Desk.look Desk.again
  rcases c.desk.enter s c.now with ⟨progress, desk⟩
  cases progress <;> rfl

/-- Requests that begin together begin one after the other. -/
theorem calls_beginAll (c : Counter) (settings : List RateSettings) : ∃ ops, c.calls ops =
    { c with
      desk := (c.desk.beginAll c.now settings).2
      requests := c.requests ++ (c.desk.beginAll c.now settings).1 } := by
  -- The requests before it are not touched by the one that begins next.
  induction settings generalizing c with
  | nil => exact ⟨[], by simp [calls, Desk.beginAll]⟩
  | cons s rest ih =>
    obtain ⟨ops, hops⟩ := ih (c.calls [.enter s, .again c.requests.length])
    refine ⟨[.enter s, .again c.requests.length] ++ ops, ?_⟩
    rw [calls_append, hops, calls_look]
    simp [Desk.beginAll]

/-- Looks at requests in order are operations one after the other. -/
theorem calls_againAll (c : Counter) (done rest : List Request)
    (hrequests : c.requests = done ++ rest) : ∃ ops, c.calls ops =
      { c with
        desk := (c.desk.againAll c.now rest).2
        requests := done ++ (c.desk.againAll c.now rest).1 } := by
  induction rest generalizing c done with
  | nil => exact ⟨[], by simp [calls, Desk.againAll, ← hrequests]⟩
  | cons r rest ih =>
    have hfound : c.requests[done.length]? = some r := by simp [hrequests]
    have hcall := again_of_some hfound
    -- The request that is looked at stands between those done and those to come.
    have hset : c.requests.set done.length (c.desk.again r c.now).1 =
        (done ++ [(c.desk.again r c.now).1]) ++ rest := by
      rw [hrequests, List.set_append_right _ _ (Nat.le_refl _), Nat.sub_self]
      simp
    rw [hset] at hcall
    obtain ⟨ops, hops⟩ := ih (c.call (.again done.length)) _ (by rw [hcall])
    refine ⟨.again done.length :: ops, ?_⟩
    show (c.call (.again done.length)).calls ops = _
    rw [hops, hcall]
    simp [Desk.againAll]

/-- Time never goes back when requests are looked at again. -/
theorem le_of_wakeAt? {d : Desk} {now time : Nat} {requests : List Request}
    (h : (requests.filterMap (d.wakeAt? now)).min? = some time) : now ≤ time := by
  obtain ⟨r, -, hr⟩ := List.mem_filterMap.mp (List.min?_mem h)
  unfold Desk.wakeAt? at hr
  split at hr
  · simp at hr
  · obtain rfl := Option.some.inj hr
    exact Nat.le_max_left _ _

/-- The rounds in which requests are finished are operations: time passes up to the next fetch that
is due, and all requests are looked at. -/
theorem calls_finishWith (c : Counter) (fuel : Nat) : ∃ ops, c.calls ops =
    ⟨(c.desk.finishWith c.now c.requests fuel).2.1, (c.desk.finishWith c.now c.requests fuel).2.2,
      (c.desk.finishWith c.now c.requests fuel).1⟩ := by
  induction fuel generalizing c with
  | zero => exact ⟨[], rfl⟩
  | succ fuel ih =>
    unfold Desk.finishWith
    cases hwake : (c.requests.filterMap (c.desk.wakeAt? c.now)).min? with
    | none => exact ⟨[], rfl⟩
    | some time =>
      have hle := le_of_wakeAt? hwake
      -- The round begins when the next fetch is due, which is not in the past.
      have hwait : c.call (.wait (time - c.now)) = { c with now := time } := by
        simp only [call, Nat.add_sub_cancel' hle]
      obtain ⟨looks, hlooks⟩ := calls_againAll { c with now := time } [] c.requests rfl
      obtain ⟨ops, hops⟩ := ih (calls { c with now := time } looks)
      refine ⟨.wait (time - c.now) :: (looks ++ ops), ?_⟩
      show (c.call (.wait (time - c.now))).calls (looks ++ ops) = _
      rw [hwait, calls_append, hops, hlooks]
      rfl

/-- **Requests that are carried out together are operations in some order.** -/
theorem calls_finish (d : Desk) (now : Nat) (settings : List RateSettings) :
    ∃ ops, (Counter.mk d now []).calls ops =
      ⟨(d.finish now settings).2.1, (d.finish now settings).2.2, (d.finish now settings).1⟩ := by
  obtain ⟨begins, hbegins⟩ := calls_beginAll ⟨d, now, []⟩ settings
  obtain ⟨ops, hops⟩ := calls_finishWith ((Counter.mk d now []).calls begins)
    (d.beginAll now settings).1.length
  refine ⟨begins ++ ops, ?_⟩
  rw [calls_append, hops, hbegins]
  rfl

end Counter

/-! ### Main theorem -/

/-- **Whatever is asked of a new desk happens in a run**: there are actions after which the desk is the
same, and every request that has ended has returned just that to its caller. -/
theorem Counter.served (script : Script) (ops : List Counter.Call) : ∃ actions,
    ((Bureau.opened script).run actions).Serves ((Counter.opened script).calls ops) := by
  have hopened : (Bureau.opened script).Serves (Counter.opened script) := by
    refine ⟨Bureau.sound_opened script, ⟨List.Pairwise.nil, ?_⟩, rfl, rfl, rfl, ?_⟩
    · simp [Bureau.opened]
    · simp [Counter.opened]
  exact hopened.calls ops

end Launcher.Currency
