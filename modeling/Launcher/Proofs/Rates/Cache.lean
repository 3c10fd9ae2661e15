import Launcher.Proofs.Rates.Sound

namespace Launcher.Currency

/-!
# What is written to the cache, and what requests wait for

* `Bureau.writes` — the snapshots that were written to the cache, in order, with the generations of
  their fetches.
* `Bureau.Ledger` — the invariant: the cache is the last write, writes go on with the generations,
  and a fetch that requests wait for has written nothing yet, nor has a later one.
* `Bureau.Passed` — requests will never wait for a fetch again. Once true, it stays so.
* `Bureau.cache_never_regresses` — the cache never goes back, and requests never get stuck.

Three orders have to agree: that in which fetches are started, that in which they end, and that in
which their snapshots are written. A fetch may end long after a later one was started, and its
caller may learn of it later still. What keeps the cache in order is that only the fetch in the slot
writes, and that the slot is empty afterwards. So the generations of the writes are below that of
the slot (`Ledger.below`), and a new fetch has a generation above all that there were.

That a replaced fetch never writes is a statement about the future. It is proved with `Passed`,
which no step can undo: the generation of the slot only goes up.
-/

/-- The write to the cache that an event makes: the owner of a completion writes the snapshot of its
fetch. -/
def Event.written? : Event → Option (Nat × Snapshot)
  | .left w _ (.ok c) true _ => some (w.generation, c)
  | _ => none

namespace Bureau

/-- The snapshots that were written to the cache, with the generations of their fetches. -/
def writes (b : Bureau) : List (Nat × Snapshot) :=
  b.events.filterMap (·.written?)

/-- The second of two writes comes from a later fetch, and its snapshot is not older. -/
def Earlier (x y : Nat × Snapshot) : Prop :=
  x.1 < y.1 ∧ x.2.fetchedAt ≤ y.2.fetchedAt

/-- Requests will never wait for the fetch of a generation again. -/
structure Passed (g : Nat) (b : Bureau) : Prop where
  le : g ≤ b.desk.state.generation
  slot : ∀ i, b.desk.state.inFlight = some i → g < i.generation

/-! ### Writes of a step -/

@[simp] theorem writes_admitted (b : Bureau) (s : RateSettings) (entry : Entry) :
    (b.admitted s entry).writes = b.writes := by
  simp [writes, Event.written?]

@[simp] theorem writes_started (b : Bureau) (s : RateSettings) : (b.started s).writes = b.writes :=
  writes_admitted b s _

@[simp] theorem writes_answered (b : Bureau) (f : Fetch) (answer : Except FetchFault Rates) :
    (b.answered f answer).writes = b.writes := by
  simp [writes, Event.written?]

/-- The owner of a completion writes the snapshot of its fetch. -/
theorem writes_dismissed_of_owns {b : Bureau} {w : Waiter} {c : Snapshot}
    (h : b.desk.state.owns w.generation = true) :
    (b.dismissed w (.ok c)).writes = b.writes ++ [(w.generation, c)] := by
  simp [writes, Event.written?, h]

/-- After a failure, or without owning the completion, a caller writes nothing. -/
theorem writes_dismissed_of_not {b : Bureau} {w : Waiter} {o : Except FetchFault Snapshot}
    (h : ∀ c, o = .ok c → b.desk.state.owns w.generation = false) :
    (b.dismissed w o).writes = b.writes := by
  cases o with
  | ok c => simp [writes, Event.written?, h c rfl]
  | error cause => simp [writes, Event.written?]

/-! ### The fetches that have passed -/

namespace Passed

variable {g : Nat} {b b' : Bureau}

/-- What has passed stays so while the slot keeps or loses its fetch. -/
theorem of_same_generation (h : Passed g b)
    (hgeneration : b'.desk.state.generation = b.desk.state.generation)
    (hslot : ∀ i, b'.desk.state.inFlight = some i → b.desk.state.inFlight = some i) :
    Passed g b' where
  le := by rw [hgeneration]; exact h.le
  slot := fun i hi => h.slot i (hslot i hi)

/-- A step never goes back to a fetch that has passed. -/
theorem of_step {a : Action} (h : Passed g b) (hstep : Step b a b') : Passed g b' := by
  cases hstep with
  | started s _ _ _ =>
    refine ⟨Nat.le_succ_of_le h.le, ?_⟩
    intro i hi
    rw [started_desk, Desk.startNext_inFlight] at hi
    cases hi
    exact Nat.lt_succ_of_le h.le
  | left w _ outcome _ =>
    refine h.of_same_generation (RateState.leave_generation _ _ _ _ _) ?_
    intro i hi
    exact (inFlight_dismissed_iff.mp hi).1
  | refused | served | joined | resolved | abandoned | waited =>
    exact h.of_same_generation rfl (fun _ hi => hi)

/-- A fetch that has passed writes no more. -/
theorem writes_of_step {a : Action} (h : Passed g b) (hstep : Step b a b') :
    ∀ x ∈ b'.writes, x.1 = g → x ∈ b.writes := by
  intro x hx hgen
  cases hstep with
  | refused | served | joined => rwa [writes_admitted] at hx
  | started => rwa [writes_started] at hx
  | resolved => rwa [writes_answered] at hx
  | left w _ outcome _ =>
    rcases b.desk.state.leave_cache w.settings w.generation outcome b.now with
      ⟨c, rfl, hown, -⟩ | ⟨hnot, -⟩
    · rw [writes_dismissed_of_owns hown, List.mem_append, List.mem_singleton] at hx
      rcases hx with hx | rfl
      · exact hx
      · -- The owner's fetch is in the slot, so it has not passed.
        obtain ⟨i, hi, hislot⟩ := (b.desk.state.owns_iff _).mp hown
        have hlt := h.slot i hi
        rw [hislot, ← hgen] at hlt
        exact absurd hlt (Nat.lt_irrefl _)
    · rwa [writes_dismissed_of_not hnot] at hx
  | abandoned | waited => exact hx

/-- Whatever happens later, a fetch that has passed stays so, and writes no more. -/
theorem run (h : Passed g b) (actions : List Action) :
    Passed g (b.run actions) ∧ ∀ x ∈ (b.run actions).writes, x.1 = g → x ∈ b.writes := by
  refine run_induction (Q := fun _ => True)
    (P := fun b' => Passed g b' ∧ ∀ x ∈ b'.writes, x.1 = g → x ∈ b.writes) ?_
    ⟨h, fun x hx _ => hx⟩ (fun _ _ => trivial)
  intro b₁ a b₂ _ ⟨hpassed, hwrites⟩ hstep
  refine ⟨hpassed.of_step hstep, ?_⟩
  intro x hx hgen
  exact hwrites x (hpassed.writes_of_step hstep x hx hgen) hgen

end Passed

/-! ### The ledger -/

/-- The writes, the cache and the slot belong together. -/
structure Ledger (b : Bureau) : Prop where
  sound : Sound b
  /-- The cache is the last write. -/
  cache : b.desk.state.cache = b.writes.getLast?.map (·.2)
  ordered : b.writes.Pairwise Earlier
  /-- What was written is the snapshot of a fetch that succeeded. -/
  produced : ∀ x ∈ b.writes, ∃ t, Event.resolved x.1 t (.ok x.2) ∈ b.events
  /-- What was written comes from before the fetch that requests wait for. -/
  below : ∀ i, b.desk.state.inFlight = some i → ∀ x ∈ b.writes, x.1 < i.generation
  /-- The snapshot of the fetch that requests wait for is not older than what was written. -/
  younger : ∀ i, b.desk.state.inFlight = some i →
    ∀ t c, Event.resolved i.generation t (.ok c) ∈ b.events →
      ∀ x ∈ b.writes, x.2.fetchedAt ≤ c.fetchedAt
  /-- A fetch of which somebody has learned has passed. -/
  passed : ∀ w t o isOwner r, Event.left w t o isOwner r ∈ b.events → Passed w.generation b

namespace Ledger

variable {b b' : Bureau}

/-- What was written comes from a fetch that was started. -/
theorem generation_le (h : Ledger b) {x : Nat × Snapshot} (hx : x ∈ b.writes) :
    x.1 ≤ b.desk.state.generation := by
  obtain ⟨t, ht⟩ := h.produced x hx
  obtain ⟨-, f, hf, hgen, -⟩ := h.sound.resolved _ _ _ ht
  rw [← hgen]
  exact h.sound.generation_le hf

/-- What was written was fetched in the past. -/
theorem fetchedAt_le (h : Ledger b) {x : Nat × Snapshot} (hx : x ∈ b.writes) :
    x.2.fetchedAt ≤ b.now := by
  obtain ⟨t, ht⟩ := h.produced x hx
  obtain ⟨hle, f, -, -, -, hsnap⟩ := h.sound.resolved _ _ _ ht
  rw [(hsnap _ rfl).2]
  exact hle

/-- A fetch that failed has written nothing. -/
theorem not_written_of_error (h : Ledger b) {g t : Nat} {cause : FetchFault}
    (hfail : Event.resolved g t (.error cause) ∈ b.events) : ∀ x ∈ b.writes, x.1 ≠ g := by
  rintro x hx rfl
  -- A write comes from a fetch that succeeded, and a fetch ends in one way only.
  obtain ⟨t', ht'⟩ := h.produced x hx
  have heq := h.sound.outcome_unique hfail ht'
  simp at heq

/-- A step without a write, a new fetch, an end of a fetch or a caller that leaves keeps the
ledger. -/
theorem of_same_desk (h : Ledger b) (hsound : Sound b') (hdesk : b'.desk = b.desk)
    (hwrites : b'.writes = b.writes) (hevents : b.events ⊆ b'.events)
    (hresolved : ∀ g t o, Event.resolved g t o ∈ b'.events → Event.resolved g t o ∈ b.events)
    (hleft : ∀ w t o isOwner r, Event.left w t o isOwner r ∈ b'.events →
      Event.left w t o isOwner r ∈ b.events) : Ledger b' where
  sound := hsound
  cache := by rw [hdesk, hwrites]; exact h.cache
  ordered := by rw [hwrites]; exact h.ordered
  produced := by
    rw [hwrites]
    intro x hx
    obtain ⟨t, ht⟩ := h.produced x hx
    exact ⟨t, hevents ht⟩
  below := by rw [hdesk, hwrites]; exact h.below
  younger := by
    rw [hdesk, hwrites]
    intro i hi t c hc
    exact h.younger i hi t c (hresolved _ _ _ hc)
  passed := by
    intro w t o isOwner r he
    have hold := h.passed w t o isOwner r (hleft _ _ _ _ _ he)
    exact hold.of_same_generation (by rw [hdesk]) (by rw [hdesk]; exact fun _ hi => hi)

/-- A request that begins without a new fetch keeps the ledger. -/
theorem of_admit (h : Ledger b) (s : RateSettings) (entry : Entry)
    (hsound : Sound (b.admitted s entry)) : Ledger (b.admitted s entry) :=
  h.of_same_desk hsound rfl (writes_admitted b s entry) (List.subset_append_left _ _)
    (by simp) (by simp)

/-- A later fetch keeps the ledger: it has written nothing, and nobody has learned of it. -/
theorem of_start (h : Ledger b) (s : RateSettings) (hsound : Sound (b.started s)) :
    Ledger (b.started s) := by
  refine
    { sound := hsound
      cache := ?cache
      ordered := ?ordered
      produced := ?produced
      below := ?below
      younger := ?younger
      passed := ?passed }
  case cache =>
    rw [started_desk, Desk.startNext_cache, writes_started]
    exact h.cache
  case ordered =>
    rw [writes_started]
    exact h.ordered
  case produced =>
    intro x hx
    rw [writes_started] at hx
    obtain ⟨t, ht⟩ := h.produced x hx
    exact ⟨t, List.mem_append_left _ ht⟩
  case below =>
    intro i hi x hx
    rw [started_desk, Desk.startNext_inFlight] at hi
    rw [writes_started] at hx
    cases hi
    exact Nat.lt_succ_of_le (h.generation_le hx)
  case younger =>
    intro i hi t c hc
    rw [started_desk, Desk.startNext_inFlight] at hi
    cases hi
    -- The new fetch has not ended: its generation is above all that there were.
    obtain ⟨-, f, hf, hgen, -⟩ := h.sound.resolved _ t (.ok c) (by simpa using hc)
    have hle := h.sound.generation_le hf
    rw [hgen] at hle
    exact absurd hle (Nat.not_succ_le_self _)
  case passed =>
    intro w t o isOwner r he
    have hold := h.passed w t o isOwner r (by simpa using he)
    refine ⟨Nat.le_succ_of_le hold.le, ?_⟩
    intro i hi
    rw [started_desk, Desk.startNext_inFlight] at hi
    cases hi
    exact Nat.lt_succ_of_le hold.le

/-- The end of a fetch keeps the ledger: its snapshot is as old as the clock. -/
theorem of_resolve (h : Ledger b) (f : Fetch) (answer : Except FetchFault Rates)
    (hsound : Sound (b.answered f answer)) : Ledger (b.answered f answer) := by
  refine
    { sound := hsound
      cache := ?cache
      ordered := ?ordered
      produced := ?produced
      below := ?below
      younger := ?younger
      passed := ?passed }
  case cache =>
    rw [writes_answered]
    exact h.cache
  case ordered =>
    rw [writes_answered]
    exact h.ordered
  case produced =>
    intro x hx
    rw [writes_answered] at hx
    obtain ⟨t, ht⟩ := h.produced x hx
    exact ⟨t, List.mem_append_left _ ht⟩
  case below =>
    intro i hi x hx
    rw [writes_answered] at hx
    exact h.below i hi x hx
  case younger =>
    intro i hi t c hc x hx
    rw [writes_answered] at hx
    rw [answered_events, List.mem_append, List.mem_singleton] at hc
    rcases hc with hc | hc
    · exact h.younger i hi t c hc x hx
    · obtain ⟨-, -, hout⟩ := Event.resolved.inj hc
      obtain ⟨-, -, htime⟩ := Fetch.outcomeOf_eq_ok hout.symm
      rw [htime]
      exact h.fetchedAt_le hx
  case passed =>
    intro w t o isOwner r he
    exact (h.passed w t o isOwner r (by simpa using he)).of_same_generation rfl (fun _ hi => hi)

/-- When somebody has learned of a fetch, it has passed. -/
theorem passed_dismissed (h : Ledger b) {w : Waiter} (hw : w ∈ b.waiters)
    (o : Except FetchFault Snapshot) : Passed w.generation (b.dismissed w o) := by
  have hle := h.sound.waiter_generation_le hw
  -- The fetch of the caller is not in the slot any more, and the slot goes up only.
  refine ⟨?_, ?_⟩
  · rw [dismissed_state, RateState.leave_generation]
    exact hle
  · intro i hi
    obtain ⟨hslot, hne⟩ := inFlight_dismissed_iff.mp hi
    rw [(h.sound.slot i hslot).1] at hne ⊢
    exact Nat.lt_of_le_of_ne hle (Ne.symm hne)

/-- After a caller has left, all fetches have passed of which somebody has learned. -/
theorem passed_of_left (h : Ledger b) {w : Waiter} (hw : w ∈ b.waiters)
    {o : Except FetchFault Snapshot} {w' : Waiter} {t : Nat} {o' : Except FetchFault Snapshot}
    {isOwner : Bool} {r : Except Fault Snapshot}
    (he : Event.left w' t o' isOwner r ∈ (b.dismissed w o).events) :
    Passed w'.generation (b.dismissed w o) := by
  rw [dismissed_events, List.mem_append, List.mem_singleton] at he
  rcases he with he | he
  · exact (h.passed w' t o' isOwner r he).of_same_generation
      (RateState.leave_generation _ _ _ _ _)
      (fun i hi => (inFlight_dismissed_iff.mp hi).1)
  · obtain ⟨rfl, -⟩ := Event.left.inj he
    exact h.passed_dismissed hw o

/-- The owner of a completion writes the snapshot of the fetch that requests waited for, and from then
on they wait for nothing. -/
theorem of_write (h : Ledger b) (w : Waiter) (hw : w ∈ b.waiters) {c : Snapshot}
    (ho : b.desk.outcome? w.generation = some (.ok c)) (hown : b.desk.state.owns w.generation = true)
    (hcache : (b.dismissed w (.ok c)).desk.state.cache = some c)
    (hsound : Sound (b.dismissed w (.ok c))) : Ledger (b.dismissed w (.ok c)) := by
  obtain ⟨⟨t, ht⟩, -⟩ := h.sound.learned hw ho
  obtain ⟨i, hi, hgen⟩ := (b.desk.state.owns_iff _).mp hown
  -- The slot held the fetch of the caller, so it is empty now.
  have hnone : ∀ i', (b.dismissed w (.ok c)).desk.state.inFlight ≠ some i' := by
    intro i' hi'
    obtain ⟨hi'', hne⟩ := inFlight_dismissed_iff.mp hi'
    have heq : i = i' := Option.some.inj (hi.symm.trans hi'')
    exact hne (heq ▸ hgen)
  refine
    { sound := hsound
      cache := ?cache
      ordered := ?ordered
      produced := ?produced
      below := fun i' hi' => absurd hi' (hnone i')
      younger := fun i' hi' => absurd hi' (hnone i')
      passed := fun _ _ _ _ _ he => h.passed_of_left hw he }
  case cache =>
    rw [hcache, writes_dismissed_of_owns hown]
    simp
  case ordered =>
    -- All earlier writes are below the fetch in the slot, and older than its snapshot.
    rw [writes_dismissed_of_owns hown, List.pairwise_append]
    refine ⟨h.ordered, List.pairwise_singleton _ _, ?_⟩
    intro x hx y hy
    rw [List.mem_singleton] at hy
    subst hy
    refine ⟨?_, ?_⟩
    · rw [← hgen]
      exact h.below i hi x hx
    · exact h.younger i hi t c (by rw [hgen]; exact ht) x hx
  case produced =>
    intro x hx
    rw [writes_dismissed_of_owns hown, List.mem_append, List.mem_singleton] at hx
    rcases hx with hx | rfl
    · obtain ⟨t', ht'⟩ := h.produced x hx
      exact ⟨t', List.mem_append_left _ ht'⟩
    · exact ⟨t, List.mem_append_left _ ht⟩

/-- A caller that leaves without a write keeps the ledger. -/
theorem of_no_write (h : Ledger b) (w : Waiter) (hw : w ∈ b.waiters)
    {o : Except FetchFault Snapshot} (hwrites : (b.dismissed w o).writes = b.writes)
    (hcache : (b.dismissed w o).desk.state.cache = b.desk.state.cache)
    (hsound : Sound (b.dismissed w o)) : Ledger (b.dismissed w o) := by
  have hslot : ∀ i, (b.dismissed w o).desk.state.inFlight = some i →
      b.desk.state.inFlight = some i :=
    fun i hi => (inFlight_dismissed_iff.mp hi).1
  refine
    { sound := hsound
      cache := ?cache
      ordered := ?ordered
      produced := ?produced
      below := ?below
      younger := ?younger
      passed := fun _ _ _ _ _ he => h.passed_of_left hw he }
  case cache =>
    rw [hcache, hwrites]
    exact h.cache
  case ordered =>
    rw [hwrites]
    exact h.ordered
  case produced =>
    intro x hx
    rw [hwrites] at hx
    obtain ⟨t', ht'⟩ := h.produced x hx
    exact ⟨t', List.mem_append_left _ ht'⟩
  case below =>
    intro i hi x hx
    rw [hwrites] at hx
    exact h.below i (hslot i hi) x hx
  case younger =>
    intro i hi t' c hc x hx
    rw [hwrites] at hx
    exact h.younger i (hslot i hi) t' c (by simpa using hc) x hx

/-- A caller that leaves keeps the ledger: only the owner of a completion writes, and its fetch is in
the slot. -/
theorem of_leave (h : Ledger b) (w : Waiter) (hw : w ∈ b.waiters)
    (o : Except FetchFault Snapshot) (ho : b.desk.outcome? w.generation = some o)
    (hsound : Sound (b.dismissed w o)) : Ledger (b.dismissed w o) := by
  -- Either the caller owns the completion of a success, or it writes nothing.
  rcases b.desk.state.leave_cache w.settings w.generation o b.now with
    ⟨c, rfl, hown, hcache⟩ | ⟨hnot, hcache⟩
  · exact h.of_write w hw ho hown hcache hsound
  · exact h.of_no_write w hw (writes_dismissed_of_not hnot) hcache hsound

/-- **Every step keeps the ledger.** -/
theorem of_step {a : Action} (h : Ledger b) (hstep : Step b a b') : Ledger b' := by
  have hsound := h.sound.of_step hstep
  cases hstep with
  | refused s _ => exact h.of_admit s _ hsound
  | served s _ c _ => exact h.of_admit s _ hsound
  | joined s _ _ i _ _ => exact h.of_admit s _ hsound
  | started s _ _ _ => exact h.of_start s hsound
  | resolved f answer _ _ => exact h.of_resolve f answer hsound
  | left w hw outcome ho => exact h.of_leave w (waiter?_eq_some hw).1 outcome ho hsound
  | abandoned caller =>
    exact h.of_same_desk hsound rfl rfl (List.Subset.refl _) (fun _ _ _ he => he)
      (fun _ _ _ _ _ he => he)
  | waited ms =>
    exact h.of_same_desk hsound rfl rfl (List.Subset.refl _) (fun _ _ _ he => he)
      (fun _ _ _ _ _ he => he)

end Ledger

theorem ledger_opened (script : Script) : Ledger (opened script) where
  sound := sound_opened script
  cache := rfl
  ordered := List.Pairwise.nil
  produced := by simp [opened, writes]
  below := by simp [opened]
  younger := by simp [opened]
  passed := by simp [opened]

/-- So the ledger is kept in every run. -/
theorem ledger_run (script : Script) (actions : List Action) :
    Ledger ((opened script).run actions) :=
  run_induction (Q := fun _ => True) (fun _ _ _ _ hb hstep => hb.of_step hstep)
    (ledger_opened script) (fun _ _ => trivial)

/-! ### The cache never goes back and never gets stuck -/

/-- A fetch whose place in the slot is taken by one for another base has written nothing, and never
will. -/
theorem Ledger.replaced {b : Bureau} (h : Ledger b) {i : InFlight} {s : RateSettings}
    (hi : b.desk.state.inFlight = some i)
    (hreplaced : (b.act (.call s)).desk.state.inFlight ≠ some i) :
    i.base ≠ s.base ∧
      ∀ later, ∀ x ∈ ((b.act (.call s)).run later).writes, x.1 ≠ i.generation := by
  have hstep : Step b (.call s) (b.act (.call s)) := b.call_step s
  generalize b.act (.call s) = b' at hstep hreplaced ⊢
  cases hstep with
  | refused | served | joined => exact absurd hi hreplaced
  | started _ _ _ hslot =>
    refine ⟨hslot i hi, ?_⟩
    have hlast := (h.sound.slot i hi).1
    -- The slot has a later fetch now, so the old one has passed.
    have hpassed : Passed i.generation (b.started s) := by
      refine ⟨?_, ?_⟩
      · rw [started_desk, Desk.startNext_generation, hlast]
        exact Nat.le_succ _
      · intro i' hi'
        rw [started_desk, Desk.startNext_inFlight] at hi'
        cases hi'
        rw [hlast]
        exact Nat.lt_succ_self _
    intro later x hx hgen
    have hbefore := (hpassed.run later).2 x hx hgen
    rw [writes_started] at hbefore
    have hlt := h.below i hi x hbefore
    rw [hgen] at hlt
    exact Nat.lt_irrefl _ hlt

/-- Who learns that a fetch has failed leaves the cache as it is. -/
theorem cache_resume_of_error {b : Bureau} {w : Waiter} {cause : FetchFault}
    (hw : b.waiter? w.caller = some w)
    (ho : b.desk.outcome? w.generation = some (.error cause)) :
    (b.act (.resume w.caller)).desk.state.cache = b.desk.state.cache := by
  have hact : b.act (.resume w.caller) = b.dismissed w (.error cause) := by
    show b.resume w.caller = _
    simp only [resume, hw, ho]
  rw [hact, dismissed_state]
  rcases b.desk.state.leave_cache w.settings w.generation (.error cause) b.now with
    ⟨c, hc, -⟩ | ⟨-, hcache⟩
  · simp at hc
  · exact hcache

/-- A request that finds no fresh snapshot waits for a fetch that has not passed. -/
theorem Passed.lt_awaited {g : Nat} {b : Bureau} (h : Passed g b) {s : RateSettings}
    (hkey : s.apiKey.isEmpty = false) (hfresh : b.desk.state.fresh? s b.now = none) :
    ∃ g', g < g' ∧ (b.desk.state.enter s b.now).1.awaited? = some g' := by
  rcases b.desk.state.enter_cases s b.now with
    ⟨hempty, -⟩ | ⟨-, c, hc, -⟩ | ⟨-, -, i, hi, -, henter⟩ | ⟨-, -, -, henter⟩
  · rw [hkey] at hempty
    simp at hempty
  · rw [hfresh] at hc
    simp at hc
  · exact ⟨i.generation, h.slot i hi, by rw [henter]; rfl⟩
  · exact ⟨b.desk.state.generation + 1, Nat.lt_succ_of_le h.le, by rw [henter]; rfl⟩

/-- The cache never goes back, and requests never get stuck. -/
structure Regular (b : Bureau) : Prop where
  /-- Writes come from later and later fetches, with snapshots that are never older. -/
  ordered : b.writes.Pairwise Earlier
  /-- The cache is the last write. -/
  cache : b.desk.state.cache = b.writes.getLast?.map (·.2)
  /-- What was written is the snapshot that its fetch brought. -/
  produced : ∀ x ∈ b.writes, ∃ t, Event.resolved x.1 t (.ok x.2) ∈ b.events
  /-- A fetch whose place is taken by one for another base never writes, whatever happens later. -/
  replaced : ∀ i s, b.desk.state.inFlight = some i →
    (b.act (.call s)).desk.state.inFlight ≠ some i → i.base ≠ s.base ∧
      ∀ later, ∀ x ∈ ((b.act (.call s)).run later).writes, x.1 ≠ i.generation
  /-- A fetch that failed has written nothing. -/
  failed : ∀ g t cause, Event.resolved g t (.error cause) ∈ b.events → ∀ x ∈ b.writes, x.1 ≠ g
  /-- Who learns that a fetch has failed leaves the cache as it is. -/
  kept : ∀ w cause, b.waiter? w.caller = some w →
    b.desk.outcome? w.generation = some (.error cause) →
      (b.act (.resume w.caller)).desk.state.cache = b.desk.state.cache
  /-- Requests wait no more for a fetch of which somebody has learned. -/
  cleared : ∀ w t o isOwner r, Event.left w t o isOwner r ∈ b.events →
    ∀ i, b.desk.state.inFlight = some i → i.generation ≠ w.generation
  /-- After that, one that finds no fresh snapshot waits for a later fetch. -/
  goesOn : ∀ w t o isOwner r, Event.left w t o isOwner r ∈ b.events →
    ∀ s, s.apiKey.isEmpty = false → b.desk.state.fresh? s b.now = none →
      ∃ g, w.generation < g ∧ (b.desk.state.enter s b.now).1.awaited? = some g

/-- **The cache never regresses and never wedges.** After every run, with any number of bases and
callers, writes go on with the generations, failed and replaced fetches write nothing, and no
request waits for a fetch of which somebody has learned. -/
theorem cache_never_regresses (script : Script) (actions : List Action) :
    Regular ((opened script).run actions) := by
  have h := ledger_run script actions
  refine
    { ordered := h.ordered
      cache := h.cache
      produced := h.produced
      replaced := fun i s hi hreplaced => h.replaced hi hreplaced
      failed := fun g t cause hfail => h.not_written_of_error hfail
      kept := fun w cause hw ho => cache_resume_of_error hw ho
      cleared := ?_
      goesOn := ?_ }
  · intro w t o isOwner r he i hi
    exact Nat.ne_of_gt ((h.passed w t o isOwner r he).slot i hi)
  · intro w t o isOwner r he s hkey hfresh
    exact (h.passed w t o isOwner r he).lt_awaited hkey hfresh

end Bureau

end Launcher.Currency
