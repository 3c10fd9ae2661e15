import Launcher.Proofs.Rates.Bureau
import Launcher.Proofs.Rates.LifeTimes
import Launcher.Settings.Validity

namespace Launcher.Currency

/-!
# Life times that do not add up

* `Bureau.LivesWithin` — as long as all life times that are asked for add up with all times of
  grace, no request breaks off (`Bureau.not_brokeOff`).
* `Bureau.IsIdle.run_visit` — a request that comes to an idle bureau, with its fetch answered at
  once.
* `Bureau.brokeOff_relapse` — rates that grew stale and could not be fetched again break a request
  off under life times that do not add up.
* `Bureau.never_brokeOff_iff` — the settings under which no request ever breaks off;
  `Bureau.brokeOff_valid_settings` shows valid ones that are not among them.

The first direction is an invariant: `Launcher.Proofs.Rates.LifeTimes` says it of the desk, and here
it is carried through the steps, together with the times of grace of those who wait.

For the other direction a run is given, for any such settings. It is put together of two visits: the
first fetches rates, which then grow stale, and the second fails. The run is not computed. A visit
to an idle bureau is shown to leave an idle bureau again, with the rates of the visit in its cache,
so the second visit starts from what the first one left, whatever the numbers are.
-/

variable {s : RateSettings} {limit : Nat}

/-- Rates that are asked for under these settings live within a limit that adds up with their time of
grace. Without a key none are asked for. -/
def RateSettings.FitsWithin (s : RateSettings) (limit : Nat) : Prop :=
  s.apiKey.isEmpty = false → s.ttl.toNat ≤ limit ∧ limit + s.grace.toNat < UInt64.size

namespace Bureau

variable {b b' : Bureau}

/-- A request has broken off. -/
def BrokeOff (b : Bureau) : Prop :=
  ∃ w time outcome isOwner, Event.left w time outcome isOwner (.error .graceOverflow) ∈ b.events

/-! ### Life times that add up -/

/-- All life times are within a limit that adds up with the times of grace, and no request has broken
off. -/
structure LivesWithin (b : Bureau) (limit : Nat) : Prop where
  desk : b.desk.LivesWithin limit
  waiters : ∀ w ∈ b.waiters, limit + w.settings.grace.toNat < UInt64.size
  unbroken : ¬b.BrokeOff

namespace LivesWithin

/-- An event by which nobody breaks off keeps it so. -/
theorem of_event (h : b.LivesWithin limit) (hdesk : b'.desk.LivesWithin limit)
    (hwaiters : ∀ w ∈ b'.waiters, limit + w.settings.grace.toNat < UInt64.size) {e : Event}
    (hevents : b'.events = b.events ++ [e])
    (he : ∀ w time outcome isOwner, e ≠ .left w time outcome isOwner (.error .graceOverflow)) :
    b'.LivesWithin limit where
  desk := hdesk
  waiters := hwaiters
  unbroken := by
    rintro ⟨w, time, outcome, isOwner, hmem⟩
    rw [hevents, List.mem_append, List.mem_singleton] at hmem
    obtain hold | hnew := hmem
    · exact h.unbroken ⟨w, time, outcome, isOwner, hold⟩
    · exact he w time outcome isOwner hnew.symm

/-- A request begins, and its caller waits if it has to. -/
theorem of_admit (h : b.LivesWithin limit) (entry : Entry)
    (hs : ∀ g, entry.awaited? = some g → limit + s.grace.toNat < UInt64.size)
    (hdesk : b'.desk.LivesWithin limit) (hwaiters : b'.waiters = (b.admitted s entry).waiters)
    (hevents : b'.events = b.events ++ [.entered b.callers s b.now entry]) :
    b'.LivesWithin limit := by
  refine h.of_event hdesk ?_ hevents nofun
  intro w hw
  rw [hwaiters] at hw
  obtain hold | ⟨g, hawaited, rfl⟩ := mem_waiters_admitted.mp hw
  · exact h.waiters w hold
  · exact hs g hawaited

/-- **Every step keeps it so**, if what is asked for fits. -/
theorem of_step {a : Action} (h : b.LivesWithin limit)
    (ha : ∀ s, a = .call s → s.FitsWithin limit) (hstep : Step b a b') :
    b'.LivesWithin limit := by
  cases hstep with
  | refused s _ => exact h.of_admit .refused nofun h.desk rfl rfl
  | served s _ c _ => exact h.of_admit (.ready c) nofun h.desk rfl rfl
  | joined s hkey _ i _ _ => exact h.of_admit _ (fun _ _ => (ha s rfl hkey).2) h.desk rfl rfl
  | started s hkey _ _ =>
    obtain ⟨hs, hsum⟩ := ha s rfl hkey
    exact h.of_admit _ (fun _ _ => hsum) (h.desk.startNext hs b.now) rfl rfl
  | resolved f answer _ _ =>
    exact h.of_event (h.desk.resolve f.generation answer b.now) h.waiters
      (answered_events b f answer) nofun
  | left w hw outcome ho =>
    have hsum := h.waiters w (waiter?_eq_some hw).1
    -- What the caller learns comes from the desk, so it lives within the limit.
    have hlives : ∀ c, outcome = .ok c → c.LivesWithin limit := by
      rintro c rfl
      exact h.desk.outcome? ho
    refine h.of_event (h.desk.leave w.generation b.now hlives)
      (fun w' hw' => h.waiters w' (mem_others hw')) (dismissed_events b w outcome) ?_
    intro w' time outcome' isOwner heq
    have hresult := (Event.left.inj heq).2.2.2.2
    rw [Desk.leave_result] at hresult
    exact RateState.leave_ne_overflow h.desk.cache hsum w.generation outcome hresult
  | abandoned caller =>
    exact ⟨h.desk, fun w hw => h.waiters w (mem_others hw), h.unbroken⟩
  | waited ms => exact ⟨h.desk, h.waiters, h.unbroken⟩

/-- Nothing is too long where nothing has happened. -/
theorem opened (script : Script) (limit : Nat) : (opened script).LivesWithin limit where
  desk := ⟨nofun, nofun⟩
  waiters := nofun
  unbroken := by
    rintro ⟨w, time, outcome, isOwner, hmem⟩
    exact nomatch hmem

end LivesWithin

/-- As long as the life times that are asked for add up with all times of grace, no request breaks
off, whoever asks and whatever the source answers. -/
theorem not_brokeOff (limit : Nat) (script : Script) {actions : List Action}
    (hactions : ∀ s, .call s ∈ actions → s.FitsWithin limit) :
    ¬((opened script).run actions).BrokeOff := by
  have h : ((opened script).run actions).LivesWithin limit := by
    refine run_induction (P := fun b => b.LivesWithin limit)
      (Q := fun a => ∀ s, a = .call s → s.FitsWithin limit) ?_ (.opened script limit) ?_
    · intro b a b' ha hb hstep
      exact hb.of_step ha hstep
    · rintro a ha s rfl
      exact hactions s ha
  exact h.unbroken

/-! ### One request after the other -/

/-- Nobody waits, and the fetches are numbered up to the last generation. -/
structure IsIdle (b : Bureau) : Prop where
  inFlight : b.desk.state.inFlight = none
  waiters : b.waiters = []
  generations : ∀ f ∈ b.desk.fetches, f.generation ≤ b.desk.state.generation

theorem isIdle_opened (script : Script) : (opened script).IsIdle := ⟨rfl, rfl, nofun⟩

/-- A request comes and starts a fetch, the source answers at once, and the caller leaves. -/
def visit (b : Bureau) (s : RateSettings) (answer : Except FetchFault Rates) : List Action :=
  [.call s, .answer (b.desk.state.generation + 1) answer, .resume b.callers]

/-- The caller that waits during a visit. -/
def visitor (b : Bureau) (s : RateSettings) : Waiter :=
  ⟨b.callers, s, b.desk.state.generation + 1⟩

/-- The bureau when a visit is over. -/
def visited (b : Bureau) (s : RateSettings) (answer : Except FetchFault Rates) : Bureau :=
  ((b.started s).answered (b.desk.nextFetch s b.now) answer).dismissed (b.visitor s)
    ((b.desk.nextFetch s b.now).outcomeOf answer b.now)

namespace IsIdle

/-- Time that passes brings nobody. -/
theorem wait (h : b.IsIdle) (ms : Nat) : (b.act (.wait ms)).IsIdle :=
  ⟨h.inFlight, h.waiters, h.generations⟩

/-- A request that finds nothing fresh at an idle bureau starts a fetch. -/
theorem call (h : b.IsIdle) (hkey : s.apiKey.isEmpty = false)
    (hfresh : b.desk.state.fresh? s b.now = none) : b.call s = b.started s := by
  have henter : b.desk.state.enter s b.now = (.start (b.desk.state.generation + 1),
      { b.desk.state with
        inFlight := some ⟨b.desk.state.generation + 1, s.base⟩
        generation := b.desk.state.generation + 1 }) := by
    simp [RateState.enter, hkey, hfresh, h.inFlight]
  simp only [Bureau.call, Desk.enter, henter]
  rfl

/-- The fetch that was started is found by its generation, which is new. -/
theorem fetch?_started (h : b.IsIdle) (s : RateSettings) :
    (b.started s).desk.fetch? (b.desk.state.generation + 1) = some (b.desk.nextFetch s b.now) := by
  have hold : b.desk.fetches.find? (·.generation == b.desk.state.generation + 1) = none := by
    refine List.find?_eq_none.mpr fun f hf => ?_
    -- The next fetch has a number of its own.
    have hle := h.generations f hf
    simp only [beq_iff_eq]
    omega
  rw [Desk.fetch?, started_desk, Desk.startNext_fetches, List.find?_append, hold]
  simp [Desk.nextFetch]

/-- What a visit at an idle bureau comes to. -/
theorem run_visit (h : b.IsIdle) (hkey : s.apiKey.isEmpty = false)
    (hfresh : b.desk.state.fresh? s b.now = none) (answer : Except FetchFault Rates) :
    b.run (b.visit s answer) = b.visited s answer := by
  -- Each of the three actions is possible, and finds what the one before it left.
  have hfetch := h.fetch?_started s
  have hanswer : (b.started s).answer (b.desk.state.generation + 1) answer =
      (b.started s).answered (b.desk.nextFetch s b.now) answer := by
    rw [Bureau.answer, hfetch]
    rfl
  have hwaiter : ((b.started s).answered (b.desk.nextFetch s b.now) answer).waiter? b.callers =
      some (b.visitor s) := by
    show (b.waiters ++ [b.visitor s]).find? _ = _
    rw [h.waiters]
    exact List.find?_cons_of_pos (beq_self_eq_true b.callers)
  have houtcome : ((b.started s).answered (b.desk.nextFetch s b.now) answer).desk.outcome?
      (b.visitor s).generation = some ((b.desk.nextFetch s b.now).outcomeOf answer b.now) :=
    Desk.outcome?_resolve (b.started s).desk hfetch rfl answer b.now
  show ((b.call s).answer _ answer).resume b.callers = _
  rw [h.call hkey hfresh, hanswer, resume, hwaiter]
  dsimp only
  rw [houtcome]
  rfl

/-- After a visit nobody waits. -/
theorem visited (h : b.IsIdle) (s : RateSettings) (answer : Except FetchFault Rates) :
    (b.visited s answer).IsIdle where
  inFlight := by
    refine Option.eq_none_iff_forall_ne_some.mpr fun i hi => ?_
    obtain ⟨hi, hne⟩ := inFlight_dismissed_iff.mp hi
    obtain rfl : ⟨b.desk.state.generation + 1, s.base⟩ = i := Option.some.inj hi
    exact hne rfl
  waiters := by
    show (b.waiters ++ [b.visitor s]).filter (·.caller != b.callers) = []
    rw [h.waiters]
    exact List.filter_cons_of_neg (by simp [visitor])
  generations f hf := by
    have hgeneration : (b.visited s answer).desk.state.generation = b.desk.state.generation + 1 :=
      RateState.leave_generation _ _ _ _ _
    rw [hgeneration]
    obtain ⟨f', hf', rfl⟩ := (Desk.mem_fetches_resolve _).mp hf
    have hle : f'.generation ≤ b.desk.state.generation + 1 := by
      obtain hold | hnew := List.mem_append.mp hf'
      · exact Nat.le_succ_of_le (h.generations f' hold)
      · obtain rfl := List.mem_singleton.mp hnew
        exact Nat.le_refl _
    split <;> simpa using hle

end IsIdle

/-- The state after a visit is that after the leave of its caller. -/
theorem visited_state (b : Bureau) (s : RateSettings) (answer : Except FetchFault Rates) :
    (b.visited s answer).desk.state =
      ((b.desk.startNext s b.now).state.leave s (b.desk.state.generation + 1)
        ((b.desk.nextFetch s b.now).outcomeOf answer b.now) b.now).2 := rfl

/-- The leave of its caller is among the events. -/
theorem left_mem_visited_events (b : Bureau) (s : RateSettings) (answer : Except FetchFault Rates) :
    Event.left (b.visitor s) b.now ((b.desk.nextFetch s b.now).outcomeOf answer b.now)
      ((b.desk.startNext s b.now).state.owns (b.desk.state.generation + 1))
      ((b.desk.startNext s b.now).state.leave s (b.desk.state.generation + 1)
        ((b.desk.nextFetch s b.now).outcomeOf answer b.now) b.now).1 ∈
      (b.visited s answer).events :=
  List.mem_append_right _ (List.mem_singleton.mpr rfl)

/-- A visit with an answer leaves the snapshot of that answer behind. -/
theorem visited_ok_cache (b : Bureau) (s : RateSettings) (rates : Rates) :
    (b.visited s (.ok rates)).desk.state.cache = some ⟨s.base, sortRates rates, b.now, s.ttl⟩ := by
  have howns : (b.desk.startNext s b.now).state.owns (b.desk.state.generation + 1) = true :=
    (RateState.owns_iff _ _).mpr ⟨_, rfl, rfl⟩
  rw [visited_state, Fetch.outcomeOf, Except.map, RateState.leave_ok, if_pos howns]
  rfl

/-- A visit without an answer breaks off if the life time of the last snapshot and the time of grace
do not add up. -/
theorem brokeOff_visited_error {c : Snapshot} (hcache : b.desk.state.cache = some c)
    (hbase : c.base = s.base) (hsum : UInt64.size ≤ c.ttl.toNat + s.grace.toNat)
    (cause : FetchFault) : (b.visited s (.error cause)).BrokeOff := by
  have hfallback : (b.desk.startNext s b.now).state.fallback s cause b.now =
      .error .graceOverflow :=
    RateState.fallback_eq_overflow_iff.mpr ⟨c, hcache, hbase, hsum⟩
  have hleft := b.left_mem_visited_events s (.error cause)
  rw [Fetch.outcomeOf, Except.map, RateState.leave_error, hfallback] at hleft
  exact ⟨_, _, _, _, hleft⟩

/-- Rates are fetched and grow stale, and the next fetch fails. -/
def relapse (s : RateSettings) : List Action :=
  [.call s, .answer 1 (.ok []), .resume 0, .wait (s.ttl.toNat * 1000 + 1),
    .call s, .answer 2 (.error (.network "offline")), .resume 1]

/-- All requests of a relapse have the same settings. -/
theorem call_mem_relapse {s' : RateSettings} (h : .call s' ∈ relapse s) : s' = s := by
  simpa [relapse] using h

/-- A relapse breaks off under settings whose life time and time of grace do not add up. -/
theorem brokeOff_relapse (script : Script) (hkey : s.apiKey.isEmpty = false)
    (hsum : UInt64.size ≤ s.ttl.toNat + s.grace.toNat) :
    ((opened script).run (relapse s)).BrokeOff := by
  have hopened := isIdle_opened script
  -- The bureau when the rates have grown stale. Only what is said of it here is needed.
  obtain ⟨later, hlater⟩ :
      ∃ later, ((opened script).visited s (.ok [])).act (.wait (s.ttl.toNat * 1000 + 1)) = later :=
    ⟨_, rfl⟩
  have hidle : later.IsIdle := hlater ▸ (hopened.visited s (.ok [])).wait _
  have hcache : later.desk.state.cache = some ⟨s.base, sortRates [], 0, s.ttl⟩ :=
    hlater ▸ (opened script).visited_ok_cache s []
  have hnow : later.now = s.ttl.toNat * 1000 + 1 := by
    rw [← hlater]
    exact Nat.zero_add _
  -- The rates are one millisecond older than they live.
  have hstale : later.desk.state.fresh? s later.now = none := by
    rw [RateState.fresh?, hcache, hnow]
    simp [Option.filter_some, Snapshot.isStale, Snapshot.age]
  have hrelapse : relapse s = (opened script).visit s (.ok []) ++ .wait (s.ttl.toNat * 1000 + 1) ::
      later.visit s (.error (.network "offline")) := by
    rw [← hlater]
    rfl
  rw [hrelapse, run_append, hopened.run_visit hkey rfl (.ok []), run_cons, hlater,
    hidle.run_visit hkey hstale]
  exact brokeOff_visited_error hcache rfl hsum _

/-! ### Settings -/

/-- **The settings under which no request ever breaks off**, whoever asks and whatever the source
answers: those without a key, and those whose life time and time of grace add up to a number of
seconds that sixty-four bits can hold. -/
theorem never_brokeOff_iff (settings : Settings) (script : Script) :
    (∀ actions, (∀ s, .call s ∈ actions → s = .ofSettings settings) →
      ¬((opened script).run actions).BrokeOff) ↔
      (Text.trimmed settings.currencyApiKey).isEmpty = true ∨
        settings.rateTtlSecs.toNat + settings.rateGraceSecs.toNat < UInt64.size := by
  constructor
  · -- Otherwise a relapse breaks off.
    intro hnever
    by_contra hnot
    obtain ⟨hkey, hsum⟩ := not_or.mp hnot
    exact hnever (relapse (.ofSettings settings)) (fun _ => call_mem_relapse)
      (brokeOff_relapse script (Bool.eq_false_iff.mpr hkey) (Nat.not_lt.mp hsum))
  · intro hfits actions hactions
    refine not_brokeOff settings.rateTtlSecs.toNat script fun s hs => ?_
    rw [hactions s hs]
    intro hkey
    obtain hempty | hsum := hfits
    · exact absurd hempty (Bool.eq_false_iff.mp hkey)
    · exact ⟨Nat.le_refl _, hsum⟩

/-- Settings can be valid although a relapse breaks off under them: they bound neither the life time
of rates from above nor the time of grace. -/
theorem brokeOff_valid_settings :
    let settings : Settings :=
      { Settings.defaults {} with
        commands := []
        currencyApiKey := "k"
        rateTtlSecs := 1
        rateGraceSecs := 18446744073709551615 }
    Settings.check settings = .ok () ∧
      ((opened ⟨[]⟩).run (relapse (.ofSettings settings))).BrokeOff := by
  intro settings
  exact ⟨by decide +kernel, brokeOff_relapse ⟨[]⟩ (by decide +kernel) (by decide)⟩

end Bureau

end Launcher.Currency
