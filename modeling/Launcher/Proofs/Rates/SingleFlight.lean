import Launcher.Proofs.Rates.Sound
import Mathlib.Data.List.Perm.Subperm

namespace Launcher.Currency

/-!
# One fetch at a time for one base

While all requests ask for one base, at most one fetch is under way, and none is started while the
snapshot of an earlier one is fresh (`Bureau.single_flight`).

* `Event.startedAt?`, `Event.freshUntil?` — when a fetch is started, and until when what an event
  brings is fresh.
* `Bureau.unresolved` — the fetches that have not ended.
* `Bureau.StartsLater` — no fetch is started while what came before is fresh.
* `Bureau.OneBase` — the invariant.

The invariant ties the unresolved fetches and the fresh snapshots to the slot and the cache: an
unresolved fetch is the one that requests wait for, and a fresh snapshot is either that of the fetch
that requests wait for, or the cached one. So a request that finds neither starts a fetch when
nothing is unresolved and nothing is fresh.

Between the end of a fetch and the moment at which its caller learns of it, its snapshot is in
neither place: it is with the fetch in the slot, and a request that comes then waits for that fetch.
This is why the invariant has two parts for snapshots, `spent` and `cached`. With one base no fetch
takes the slot from another, so nothing fresh is ever lost.
-/

/-- The time at which a fetch is started by an event. -/
def Event.startedAt? : Event → Option Nat
  | .entered _ _ time (.start _) => some time
  | _ => none

/-- The last moment at which the snapshot is fresh that an event brings. -/
def Event.freshUntil? : Event → Option Nat
  | .resolved _ time (.ok c) => some (time + c.ttl.toNat * 1000)
  | _ => none

/-- Only the end of a fetch that succeeded brings something fresh. -/
theorem Event.freshUntil?_eq_some {e : Event} {last : Nat} (h : e.freshUntil? = some last) :
    ∃ g t c, e = .resolved g t (.ok c) ∧ last = t + c.ttl.toNat * 1000 := by
  unfold Event.freshUntil? at h
  split at h
  · exact ⟨_, _, _, rfl, (Option.some.inj h).symm⟩
  · simp at h

namespace Bureau

/-- The fetches that have not ended. -/
def unresolved (b : Bureau) : List Fetch :=
  b.desk.fetches.filter (·.outcome.isNone)

/-- The second event starts no fetch while the snapshot is fresh that the first one brings. -/
def StartsLater (e e' : Event) : Prop :=
  ∀ last ∈ e.freshUntil?, ∀ time ∈ e'.startedAt?, last < time

/-- What holds while all requests ask for one base. -/
structure OneBase (base : String) (b : Bureau) : Prop where
  sound : Sound b
  slotBase : ∀ i, b.desk.state.inFlight = some i → i.base = base
  cacheBase : ∀ c, b.desk.state.cache = some c → c.base = base
  waiterBase : ∀ w ∈ b.waiters, w.settings.base = base
  /-- A fetch that has not ended is the one that requests wait for. -/
  unresolved : ∀ f ∈ b.desk.fetches, f.outcome = none →
    ∃ i, b.desk.state.inFlight = some i ∧ i.generation = f.generation
  /-- While requests wait for a fetch, no snapshot of another one is fresh. -/
  spent : ∀ i, b.desk.state.inFlight = some i → ∀ g t c, Event.resolved g t (.ok c) ∈ b.events →
    g ≠ i.generation → c.freshUntil < b.now
  /-- While requests wait for no fetch, no snapshot but the cached one is fresh. -/
  cached : b.desk.state.inFlight = none → ∀ g t c, Event.resolved g t (.ok c) ∈ b.events →
    b.desk.state.cache = some c ∨ c.freshUntil < b.now
  starts : b.events.Pairwise StartsLater

namespace OneBase

variable {base : String} {b b' : Bureau}

/-- The fetches that have not ended are at most one, as all have the generation of the slot. -/
theorem length_unresolved_le (h : OneBase base b) : b.unresolved.length ≤ 1 := by
  have hnodup : (b.unresolved.map (·.generation)).Nodup :=
    h.sound.nodup.sublist (List.filter_sublist.map _)
  cases hslot : b.desk.state.inFlight with
  | none =>
    -- An unresolved fetch would be in the slot, which is empty.
    have hnil : b.unresolved = [] := by
      rw [List.eq_nil_iff_forall_not_mem]
      intro f hf
      obtain ⟨hmem, hopen⟩ := List.mem_filter.mp hf
      obtain ⟨i, hi, -⟩ := h.unresolved f hmem (Option.isNone_iff_eq_none.mp hopen)
      rw [hslot] at hi
      simp at hi
    rw [hnil]
    exact Nat.zero_le 1
  | some i =>
    have hsub : b.unresolved.map (·.generation) ⊆ [i.generation] := by
      intro g hg
      obtain ⟨f, hf, rfl⟩ := List.mem_map.mp hg
      obtain ⟨hmem, hopen⟩ := List.mem_filter.mp hf
      obtain ⟨i', hi', hgen⟩ := h.unresolved f hmem (Option.isNone_iff_eq_none.mp hopen)
      rw [hslot] at hi'
      cases hi'
      simp [hgen]
    have hle := (List.Nodup.subperm hnodup hsub).length_le
    rwa [List.length_map] at hle

/-- A request that finds no fresh snapshot and no fetch finds none that is fresh at all. -/
theorem spent_of_start (h : OneBase base b) {s : RateSettings} (hs : s.base = base)
    (hfresh : b.desk.state.fresh? s b.now = none)
    (hslot : ∀ i, b.desk.state.inFlight = some i → i.base ≠ s.base) :
    b.desk.state.inFlight = none ∧
      ∀ g t c, Event.resolved g t (.ok c) ∈ b.events → c.freshUntil < b.now := by
  -- The slot has a fetch for the base of the request, or none; the first is excluded.
  have hnone : b.desk.state.inFlight = none := by
    rw [Option.eq_none_iff_forall_ne_some]
    intro i hi
    exact hslot i hi ((h.slotBase i hi).trans hs.symm)
  refine ⟨hnone, ?_⟩
  intro g t c hc
  rcases h.cached hnone g t c hc with hcache | hspent
  · by_contra hle
    have hstale : c.isStale b.now = false := by
      rw [← Bool.not_eq_true, c.isStale_iff]
      exact hle
    -- A cached snapshot that is not stale would have answered the request.
    have hready := (b.desk.state.fresh?_eq_some_iff s).mpr
      ⟨hcache, (h.cacheBase c hcache).trans hs.symm, hstale⟩
    rw [hfresh] at hready
    simp at hready
  · exact hspent

/-! ### Steps -/

/-- Events that bring no snapshot and start no fetch keep the order of starts. -/
theorem starts_append (h : b.events.Pairwise StartsLater) {e : Event}
    (hstart : ∀ time ∈ e.startedAt?, ∀ e' ∈ b.events, ∀ last ∈ e'.freshUntil?, last < time) :
    (b.events ++ [e]).Pairwise StartsLater := by
  rw [List.pairwise_append]
  refine ⟨h, List.pairwise_singleton _ _, ?_⟩
  intro e' he' e'' he'' last hlast time htime
  rw [List.mem_singleton] at he''
  subst he''
  exact hstart time htime e' he' last hlast

/-- A step that leaves the desk as it is keeps the invariant. -/
theorem of_same_desk (h : OneBase base b) (hsound : Sound b') (hdesk : b'.desk = b.desk)
    (hnow : b.now ≤ b'.now) (hwaiters : ∀ w ∈ b'.waiters, w.settings.base = base)
    (hresolved : ∀ g t o, Event.resolved g t o ∈ b'.events → Event.resolved g t o ∈ b.events)
    (hstarts : b'.events.Pairwise StartsLater) : OneBase base b' where
  sound := hsound
  slotBase := by rw [hdesk]; exact h.slotBase
  cacheBase := by rw [hdesk]; exact h.cacheBase
  waiterBase := hwaiters
  unresolved := by rw [hdesk]; exact h.unresolved
  spent := by
    rw [hdesk]
    intro i hi g t c hc hne
    exact Nat.lt_of_lt_of_le (h.spent i hi g t c (hresolved _ _ _ hc) hne) hnow
  cached := by
    rw [hdesk]
    intro hnone g t c hc
    rcases h.cached hnone g t c (hresolved _ _ _ hc) with hcache | hspent
    · exact .inl hcache
    · exact .inr (Nat.lt_of_lt_of_le hspent hnow)
  starts := hstarts

/-- Who waits after a request has begun waits for the one base. -/
theorem waiterBase_admitted (h : OneBase base b) {s : RateSettings} (hs : s.base = base)
    (entry : Entry) : ∀ w ∈ (b.admitted s entry).waiters, w.settings.base = base := by
  intro w hw
  rcases mem_waiters_admitted.mp hw with hold | ⟨g, -, rfl⟩
  · exact h.waiterBase w hold
  · exact hs

/-- A request that begins without a new fetch keeps the invariant. -/
theorem of_admit (h : OneBase base b) {s : RateSettings} (hs : s.base = base) (entry : Entry)
    (hsound : Sound (b.admitted s entry))
    (hentry : (Event.entered b.callers s b.now entry).startedAt? = none) :
    OneBase base (b.admitted s entry) := by
  refine h.of_same_desk hsound rfl (Nat.le_refl _) (h.waiterBase_admitted hs entry)
    (by simp) (starts_append h.starts ?_)
  rw [hentry]
  simp

/-- The start of a fetch keeps the invariant: requests waited for no fetch, and no snapshot was
fresh. -/
theorem of_start (h : OneBase base b) {s : RateSettings} (hs : s.base = base)
    (hkey : s.apiKey.isEmpty = false) (hfresh : b.desk.state.fresh? s b.now = none)
    (hslot : ∀ i, b.desk.state.inFlight = some i → i.base ≠ s.base) :
    OneBase base (b.started s) := by
  obtain ⟨hnone, hspent⟩ := h.spent_of_start hs hfresh hslot
  have hold : ∀ g t c, Event.resolved g t (.ok c) ∈ (b.started s).events →
      c.freshUntil < b.now := by
    intro g t c hc
    exact hspent g t c (by simpa using hc)
  refine
    { sound := h.sound.of_start s hkey
      slotBase := ?slotBase
      cacheBase := h.cacheBase
      waiterBase := h.waiterBase_admitted hs _
      unresolved := ?unresolved
      spent := ?spent
      cached := ?cached
      starts := ?starts }
  case slotBase =>
    intro i hi
    rw [started_desk, Desk.startNext_inFlight] at hi
    cases hi
    exact hs
  case unresolved =>
    intro f hf hopen
    rw [started_desk, Desk.startNext_fetches, List.mem_append, List.mem_singleton] at hf
    rcases hf with hf | rfl
    · obtain ⟨i, hi, -⟩ := h.unresolved f hf hopen
      rw [hnone] at hi
      simp at hi
    · exact ⟨_, Desk.startNext_inFlight _ _ _, rfl⟩
  case spent =>
    intro i _ g t c hc _
    exact hold g t c hc
  case cached =>
    intro _ g t c hc
    exact .inr (hold g t c hc)
  case starts =>
    refine starts_append h.starts ?_
    intro time htime e he last hlast
    obtain rfl : b.now = time := by simpa [Event.startedAt?] using htime
    obtain ⟨g, t, c, rfl, rfl⟩ := Event.freshUntil?_eq_some hlast
    obtain ⟨-, _, -, -, -, hsnap⟩ := h.sound.resolved g t _ he
    rw [← (hsnap c rfl).2]
    exact hspent g t c he

/-- The end of a fetch keeps the invariant: it is the one that requests wait for. -/
theorem of_resolve (h : OneBase base b) (f : Fetch) (answer : Except FetchFault Rates)
    (hf : b.desk.fetch? f.generation = some f) (hopen : f.outcome = none) :
    OneBase base (b.answered f answer) := by
  obtain ⟨hmem, -⟩ := b.desk.fetch?_eq_some hf
  obtain ⟨i, hi, hgen⟩ := h.unresolved f hmem hopen
  refine
    { sound := h.sound.of_resolve f answer hf hopen
      slotBase := h.slotBase
      cacheBase := h.cacheBase
      waiterBase := h.waiterBase
      unresolved := ?unresolved
      spent := ?spent
      cached := ?cached
      starts := starts_append h.starts (by simp [Event.startedAt?]) }
  case unresolved =>
    intro f' hf' hopen'
    obtain ⟨f₀, hf₀, rfl⟩ := (b.desk.mem_fetches_resolve).mp hf'
    by_cases heq : f₀.generation = f.generation
    · exact ⟨i, hi, by rw [if_pos heq, Fetch.resolve_generation, hgen, heq]⟩
    · rw [if_neg heq] at hopen' ⊢
      exact h.unresolved f₀ hf₀ hopen'
  case spent =>
    intro i' hi' g t c hc hne
    rcases List.mem_append.mp hc with hc | hc
    · exact h.spent i' hi' g t c hc hne
    · -- The new snapshot is that of the slot.
      obtain ⟨rfl, -, -⟩ := Event.resolved.inj (List.mem_singleton.mp hc)
      have heq : i = i' := Option.some.inj (hi.symm.trans hi')
      exact absurd (hgen.symm.trans (congrArg InFlight.generation heq)) hne
  case cached =>
    intro hnone
    exact absurd (hi.symm.trans hnone) (by simp)

/-- The end of a request keeps the invariant: if requests waited for its fetch, the snapshot goes from
the slot into the cache. -/
theorem of_leave (h : OneBase base b) (w : Waiter) (hw : b.waiter? w.caller = some w)
    (o : Except FetchFault Snapshot) (ho : b.desk.outcome? w.generation = some o) :
    OneBase base (b.dismissed w o) := by
  obtain ⟨hmem, -⟩ := waiter?_eq_some hw
  obtain ⟨⟨tw, htw⟩, hlearned⟩ := h.sound.learned hmem ho
  have hresolved : ∀ g t o', Event.resolved g t o' ∈ (b.dismissed w o).events →
      Event.resolved g t o' ∈ b.events := by
    simp
  refine
    { sound := h.sound.of_leave w o
      slotBase := ?slotBase
      cacheBase := ?cacheBase
      waiterBase := ?waiterBase
      unresolved := ?unresolved
      spent := ?spent
      cached := ?cached
      starts := starts_append h.starts (by simp [Event.startedAt?]) }
  case slotBase =>
    intro i hi
    exact h.slotBase i (inFlight_dismissed_iff.mp hi).1
  case cacheBase =>
    intro c hc
    rcases b.desk.state.leave_cache w.settings w.generation o b.now with
      ⟨c', rfl, -, hcache⟩ | ⟨-, hcache⟩
    · obtain rfl : c' = c := Option.some.inj (hcache.symm.trans hc)
      exact (hlearned c' rfl).trans (h.waiterBase w hmem)
    · exact h.cacheBase c (hcache.symm.trans hc)
  case waiterBase =>
    intro w' hw'
    exact h.waiterBase w' (mem_others hw')
  case unresolved =>
    intro f hf hopen
    obtain ⟨i, hi, hgen⟩ := h.unresolved f hf hopen
    refine ⟨i, inFlight_dismissed_iff.mpr ⟨hi, ?_⟩, hgen⟩
    intro hleft
    -- The fetch of the caller has ended, and `f` has not.
    obtain ⟨f', hf', hgen', hout⟩ := b.desk.outcome?_eq_some ho
    rw [h.sound.fetch_eq hf' hf (hgen'.trans (hleft.symm.trans hgen)), hopen] at hout
    simp at hout
  case spent =>
    intro i hi g t c hc hne
    exact h.spent i (inFlight_dismissed_iff.mp hi).1 g t c (hresolved _ _ _ hc) hne
  case cached =>
    intro hnone g t c hc
    have hold := hresolved g t _ hc
    cases hslot : b.desk.state.inFlight with
    | none =>
      -- Nobody owns a completion, so nothing was written.
      have hkeeps := b.desk.state.leave_of_not_owns w.settings w.generation o b.now
        (by simp [RateState.owns, hslot])
      rcases h.cached hslot g t c hold with hcache | hspent
      · exact .inl (by rw [dismissed_state, hkeeps, hcache])
      · exact .inr hspent
    | some i =>
      have howns : i.generation = w.generation := by
        by_contra hne
        have hkept : (b.dismissed w o).desk.state.inFlight = some i :=
          inFlight_dismissed_iff.mpr ⟨hslot, hne⟩
        exact absurd (hnone.symm.trans hkept) (by simp)
      by_cases heq : g = i.generation
      · -- The snapshot of the slot has just been written.
        have hout : o = .ok c := h.sound.outcome_unique htw (by rw [← howns, ← heq]; exact hold)
        subst hout
        refine .inl ?_
        have hown : b.desk.state.owns w.generation = true :=
          (b.desk.state.owns_iff _).mpr ⟨i, hslot, howns⟩
        rw [dismissed_state, RateState.leave_ok, if_pos hown]
      · exact .inr (h.spent i hslot g t c hold heq)

/-- **Every step keeps the invariant**, if requests ask for the one base. -/
theorem of_step {a : Action} (h : OneBase base b) (ha : ∀ s, a = .call s → s.base = base)
    (hstep : Step b a b') : OneBase base b' := by
  have hsound := h.sound.of_step hstep
  cases hstep with
  | refused s _ => exact h.of_admit (ha s rfl) _ hsound rfl
  | served s _ c _ => exact h.of_admit (ha s rfl) _ hsound rfl
  | joined s _ _ i _ _ => exact h.of_admit (ha s rfl) _ hsound rfl
  | started s hkey hfresh hslot => exact h.of_start (ha s rfl) hkey hfresh hslot
  | resolved f answer hf hopen => exact h.of_resolve f answer hf hopen
  | left w hw outcome ho => exact h.of_leave w hw outcome ho
  | abandoned caller =>
    exact h.of_same_desk hsound rfl (Nat.le_refl _) (fun w hw => h.waiterBase w (mem_others hw))
      (fun _ _ _ he => he) h.starts
  | waited ms =>
    exact h.of_same_desk hsound rfl (Nat.le_add_right _ _) h.waiterBase (fun _ _ _ he => he) h.starts

end OneBase

/-- It holds where nothing has happened. -/
theorem oneBase_opened (base : String) (script : Script) : OneBase base (opened script) where
  sound := sound_opened script
  slotBase := by simp [opened]
  cacheBase := by simp [opened]
  waiterBase := by simp [opened]
  unresolved := by simp [opened]
  spent := by simp [opened]
  cached := by simp [opened]
  starts := List.Pairwise.nil

/-- **Single flight.** Whatever the callers, the source and the clock do, while all requests ask for
one base at most one fetch has not ended at any moment, and after a fetch has brought a snapshot
no other one is started while that is fresh. -/
theorem single_flight (base : String) (script : Script) (actions : List Action)
    (hbase : ∀ s, Action.call s ∈ actions → s.base = base) :
    ((opened script).run actions).unresolved.length ≤ 1 ∧
      ((opened script).run actions).events.Pairwise StartsLater := by
  -- The invariant is kept by all steps whose requests ask for the base.
  have h : OneBase base ((opened script).run actions) := by
    refine run_induction (Q := fun a => ∀ s, a = .call s → s.base = base) ?_
      (oneBase_opened base script) ?_
    · intro b a b' ha hb hstep
      exact hb.of_step ha hstep
    · rintro a ha s rfl
      exact hbase s ha
  exact ⟨h.length_unresolved_le, h.starts⟩

/-- A run with two fetches: the second one is started when the snapshot of the first has gone stale,
and fails. -/
theorem single_flight_two_fetches :
    let dollars : RateSettings := ⟨"key", "USD", 60, 600⟩
    let actions := [.call dollars, .call { dollars with ttl := 5 }, .answer 1 (.ok []), .resume 1,
      .wait 60001, .call dollars, .answer 2 (.error (.network "offline"))]
    let b := (opened ⟨[]⟩).run actions
    (∀ s, Action.call s ∈ actions → s.base = "USD") ∧
      b.events.filterMap (·.startedAt?) = [0, 60001] ∧
      b.events.filterMap (·.freshUntil?) = [60000] ∧
      b.unresolved.length ≤ 1 ∧ b.events.Pairwise StartsLater := by
  intro dollars actions b
  have hbase : ∀ s, Action.call s ∈ actions → s.base = "USD" := by
    simp [actions, dollars]
  exact ⟨hbase, by decide +kernel, by decide +kernel, single_flight "USD" _ actions hbase⟩

end Bureau

end Launcher.Currency
