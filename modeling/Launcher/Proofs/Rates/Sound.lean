import Launcher.Proofs.Rates.Bureau

namespace Launcher.Currency

/-!
# How the parts of a bureau belong together

* `Bureau.Awaits` — a caller came and was told to wait for a fetch.
* `Bureau.Sound` — the invariant on which all others build: fetches are numbered in the order of
  their starts, the fetch that requests wait for is the last one, everybody waits for a fetch of the
  asked base, and the events tell how each fetch ended.
* `Bureau.Sound.fetch_eq`, `Bureau.Sound.outcome_unique`, `Bureau.Sound.learned` — what follows from
  it: generations tell fetches apart, a fetch ends in one way, and a caller learns how its own fetch
  ended.
* `Bureau.sound_run` — it holds after every run.

Most steps change neither the fetches nor their number. They are treated by `of_same_fetches`, which
asks only for what such a step may do: take the fetch out of the slot, let callers go or come, and
add events that are no end of a fetch. What is left are the start of a fetch, which is numbered
next, and the end of one, which changes a single entry of the list.
-/

namespace Bureau

/-- A waiting caller came and was told to wait for its fetch. -/
def Awaits (before : List Event) (w : Waiter) : Prop :=
  ∃ time entry, Event.entered w.caller w.settings time entry ∈ before ∧
    entry.awaited? = some w.generation

/-- What was told was told, whatever happens later. -/
theorem Awaits.mono {before after : List Event} {w : Waiter} (h : Awaits before w)
    (hsub : before ⊆ after) : Awaits after w := by
  obtain ⟨time, entry, hmem, hentry⟩ := h
  exact ⟨time, entry, hsub hmem, hentry⟩

/-- The parts of a bureau belong together. -/
structure Sound (b : Bureau) : Prop where
  /-- Fetches are numbered from one on in the order of their starts. -/
  generations : b.desk.fetches.map (·.generation) = List.range' 1 b.desk.state.generation
  /-- The fetch that requests wait for is the last one, and was started for its base. -/
  slot : ∀ f, b.desk.state.inFlight = some f →
    f.generation = b.desk.state.generation ∧
      ∃ g ∈ b.desk.fetches, g.generation = f.generation ∧ g.base = f.base
  /-- A caller that waits has a key, waits for a fetch of its base, and was told so. -/
  waiter : ∀ w ∈ b.waiters, w.settings.apiKey.isEmpty = false ∧
    (∃ f ∈ b.desk.fetches, f.generation = w.generation ∧ f.base = w.settings.base) ∧
    Awaits b.events w
  /-- The end of a fetch is among the events. -/
  ended : ∀ f ∈ b.desk.fetches, ∀ o, f.outcome = some o →
    ∃ t, Event.resolved f.generation t o ∈ b.events
  /-- An end that is among the events is that of a fetch; a snapshot has the base of the fetch and
  the time of its end. -/
  resolved : ∀ g t o, Event.resolved g t o ∈ b.events → t ≤ b.now ∧
    ∃ f ∈ b.desk.fetches, f.generation = g ∧ f.outcome = some o ∧
      ∀ c, o = .ok c → c.base = f.base ∧ c.fetchedAt = t

namespace Sound

variable {b b' : Bureau}

/-! ### Consequences -/

/-- No generation occurs twice. -/
theorem nodup (h : Sound b) : (b.desk.fetches.map (·.generation)).Nodup := by
  rw [h.generations]
  exact List.nodup_range'

/-- There is one fetch of each generation. -/
theorem fetch_eq (h : Sound b) {f f' : Fetch} (hf : f ∈ b.desk.fetches) (hf' : f' ∈ b.desk.fetches)
    (heq : f.generation = f'.generation) : f = f' :=
  List.inj_on_of_nodup_map h.nodup hf hf' heq

/-- A fetch is found by its generation. -/
theorem fetch?_eq (h : Sound b) {f : Fetch} (hf : f ∈ b.desk.fetches) :
    b.desk.fetch? f.generation = some f := by
  cases hfind : b.desk.fetch? f.generation with
  | none =>
    have hnone := List.find?_eq_none.mp hfind f hf
    simp at hnone
  | some f' =>
    obtain ⟨hmem, hgen⟩ := b.desk.fetch?_eq_some hfind
    rw [h.fetch_eq hmem hf hgen]

/-- No fetch is numbered above the last one. -/
theorem generation_le (h : Sound b) {f : Fetch} (hf : f ∈ b.desk.fetches) :
    f.generation ≤ b.desk.state.generation := by
  have hmem : f.generation ∈ b.desk.fetches.map (·.generation) := List.mem_map_of_mem hf
  rw [h.generations, List.mem_range'_1] at hmem
  omega

/-- Nobody waits for a fetch that was not started. -/
theorem waiter_generation_le (h : Sound b) {w : Waiter} (hw : w ∈ b.waiters) :
    w.generation ≤ b.desk.state.generation := by
  obtain ⟨-, ⟨f, hf, hgen, -⟩, -⟩ := h.waiter w hw
  rw [← hgen]
  exact h.generation_le hf

/-- A fetch ends in one way only. -/
theorem outcome_unique (h : Sound b) {g t t' : Nat} {o o' : Except FetchFault Snapshot}
    (ho : Event.resolved g t o ∈ b.events) (ho' : Event.resolved g t' o' ∈ b.events) : o = o' := by
  -- Both ends are those of the one fetch of the generation.
  obtain ⟨-, f, hf, hgen, hout, -⟩ := h.resolved g t o ho
  obtain ⟨-, f', hf', hgen', hout', -⟩ := h.resolved g t' o' ho'
  have heq : f = f' := h.fetch_eq hf hf' (hgen.trans hgen'.symm)
  rw [heq, hout'] at hout
  exact (Option.some.inj hout).symm

/-- What a caller learns is how its fetch ended; a snapshot has the base that the caller asked
for. -/
theorem learned (h : Sound b) {w : Waiter} (hw : w ∈ b.waiters)
    {o : Except FetchFault Snapshot} (ho : b.desk.outcome? w.generation = some o) :
    (∃ t, Event.resolved w.generation t o ∈ b.events) ∧
      ∀ c, o = .ok c → c.base = w.settings.base := by
  obtain ⟨f, hf, hgen, hout⟩ := b.desk.outcome?_eq_some ho
  obtain ⟨-, ⟨f', hf', hgen', hbase⟩, -⟩ := h.waiter w hw
  obtain ⟨t, ht⟩ := h.ended f hf o hout
  rw [hgen] at ht
  refine ⟨⟨t, ht⟩, ?_⟩
  intro c hc
  obtain ⟨-, f'', hf'', hgen'', -, hsnap⟩ := h.resolved _ _ _ ht
  rw [(hsnap c hc).1, h.fetch_eq hf'' hf' (hgen''.trans hgen'.symm), hbase]

/-! ### Steps -/

/-- A step that starts no fetch and ends none keeps the parts together, if those who wait after it
may. -/
theorem of_same_fetches (h : Sound b) (hfetches : b'.desk.fetches = b.desk.fetches)
    (hgeneration : b'.desk.state.generation = b.desk.state.generation)
    (hslot : ∀ f, b'.desk.state.inFlight = some f → b.desk.state.inFlight = some f)
    (hnow : b.now ≤ b'.now) (hevents : b.events ⊆ b'.events)
    (hresolved : ∀ g t o, Event.resolved g t o ∈ b'.events → Event.resolved g t o ∈ b.events)
    (hwaiters : ∀ w ∈ b'.waiters, w ∈ b.waiters ∨ w.settings.apiKey.isEmpty = false ∧
      (∃ f ∈ b.desk.fetches, f.generation = w.generation ∧ f.base = w.settings.base) ∧
      Awaits b'.events w) : Sound b' where
  generations := by rw [hfetches, hgeneration, h.generations]
  slot := by
    intro f hf
    rw [hfetches, hgeneration]
    exact h.slot f (hslot f hf)
  waiter := by
    intro w hw
    rw [hfetches]
    rcases hwaiters w hw with hold | hnew
    · obtain ⟨hkey, hfetch, hawaits⟩ := h.waiter w hold
      exact ⟨hkey, hfetch, hawaits.mono hevents⟩
    · exact hnew
  ended := by
    intro f hf o ho
    rw [hfetches] at hf
    obtain ⟨t, ht⟩ := h.ended f hf o ho
    exact ⟨t, hevents ht⟩
  resolved := by
    intro g t o hmem
    obtain ⟨ht, hfetch⟩ := h.resolved g t o (hresolved g t o hmem)
    rw [hfetches]
    exact ⟨Nat.le_trans ht hnow, hfetch⟩

/-- A request that begins without a new fetch keeps the parts together. -/
theorem of_admit (h : Sound b) (s : RateSettings) (entry : Entry)
    (hwait : ∀ g, entry.awaited? = some g → s.apiKey.isEmpty = false ∧
      ∃ f ∈ b.desk.fetches, f.generation = g ∧ f.base = s.base) : Sound (b.admitted s entry) := by
  -- The slot and the fetches stay; only the new caller may wait.
  refine h.of_same_fetches rfl rfl (fun _ hf => hf) (Nat.le_refl _)
    (List.subset_append_left _ _) (by simp) ?_
  intro w hw
  rcases mem_waiters_admitted.mp hw with hold | ⟨g, hg, rfl⟩
  · exact .inl hold
  · obtain ⟨hkey, hfetch⟩ := hwait g hg
    exact .inr ⟨hkey, hfetch, b.now, entry, by simp, hg⟩

/-- The start of the next fetch keeps the parts together. -/
theorem of_start (h : Sound b) (s : RateSettings) (hkey : s.apiKey.isEmpty = false) :
    Sound (b.started s) := by
  have hsub : b.desk.fetches ⊆ (b.desk.startNext s b.now).fetches := by
    rw [Desk.startNext_fetches]
    exact List.subset_append_left _ _
  have hnew : b.desk.nextFetch s b.now ∈ (b.desk.startNext s b.now).fetches := by simp
  have hevents : b.events ⊆ (b.admitted s (.start (b.desk.state.generation + 1))).events :=
    List.subset_append_left _ _
  refine
    { generations := ?generations
      slot := ?slot
      waiter := ?waiter
      ended := ?ended
      resolved := ?resolved }
  case generations =>
    rw [started_desk, Desk.startNext_fetches, Desk.startNext_generation, List.map_append, h.generations]
    simp [Desk.nextFetch, List.range'_concat, Nat.add_comm]
  case slot =>
    intro i hi
    rw [started_desk, Desk.startNext_inFlight] at hi
    cases hi
    exact ⟨rfl, _, hnew, rfl, rfl⟩
  case waiter =>
    intro w hw
    rcases mem_waiters_admitted.mp hw with hold | ⟨g, hg, rfl⟩
    · obtain ⟨hk, ⟨f, hf, hfetch⟩, hawaits⟩ := h.waiter w hold
      exact ⟨hk, ⟨f, hsub hf, hfetch⟩, hawaits.mono hevents⟩
    · cases hg
      exact ⟨hkey, ⟨_, hnew, rfl, rfl⟩, b.now, .start (b.desk.state.generation + 1),
        by simp, rfl⟩
  case ended =>
    intro f hf o ho
    rw [started_desk, Desk.startNext_fetches, List.mem_append, List.mem_singleton] at hf
    rcases hf with hold | rfl
    · obtain ⟨t, ht⟩ := h.ended f hold o ho
      exact ⟨t, hevents ht⟩
    · simp [Desk.nextFetch] at ho
  case resolved =>
    intro g t o hmem
    obtain ⟨ht, f, hf, hfetch⟩ := h.resolved g t o (by simpa using hmem)
    exact ⟨ht, f, hsub hf, hfetch⟩

/-- The end of a fetch keeps the parts together. -/
theorem of_resolve (h : Sound b) (f : Fetch) (answer : Except FetchFault Rates)
    (hf : b.desk.fetch? f.generation = some f) (hopen : f.outcome = none) :
    Sound (b.answered f answer) := by
  obtain ⟨hmem, -⟩ := b.desk.fetch?_eq_some hf
  -- Every fetch is still there, with its generation and base; only `f` has got an outcome.
  have hkept : ∀ f₀ ∈ b.desk.fetches, f₀.generation ≠ f.generation →
      f₀ ∈ (b.answered f answer).desk.fetches := by
    intro f₀ hf₀ hne
    exact (b.desk.mem_fetches_resolve).mpr ⟨f₀, hf₀, by rw [if_neg hne]⟩
  have hended : { f with outcome := some (f.outcomeOf answer b.now) } ∈
      (b.answered f answer).desk.fetches := by
    refine (b.desk.mem_fetches_resolve).mpr ⟨f, hmem, ?_⟩
    rw [if_pos rfl, Fetch.resolve_of_open hopen]
  have hthere : ∀ g base, (∃ f₀ ∈ b.desk.fetches, f₀.generation = g ∧ f₀.base = base) →
      ∃ f₀ ∈ (b.answered f answer).desk.fetches, f₀.generation = g ∧ f₀.base = base := by
    rintro g base ⟨f₀, hf₀, hgen, hbase⟩
    by_cases heq : f₀.generation = f.generation
    · obtain rfl := h.fetch_eq hf₀ hmem heq
      exact ⟨_, hended, hgen, hbase⟩
    · exact ⟨f₀, hkept f₀ hf₀ heq, hgen, hbase⟩
  refine
    { generations := ?generations
      slot := ?slot
      waiter := ?waiter
      ended := ?ended
      resolved := ?resolved }
  case generations =>
    show ((b.desk.resolve _ _ _).fetches.map (·.generation)) = _
    rw [Desk.map_generation_resolve]
    exact h.generations
  case slot =>
    intro i hi
    obtain ⟨hlast, hfetch⟩ := h.slot i hi
    exact ⟨hlast, hthere _ _ hfetch⟩
  case waiter =>
    intro w hw
    obtain ⟨hkey, hfetch, hawaits⟩ := h.waiter w hw
    exact ⟨hkey, hthere _ _ hfetch, hawaits.mono (List.subset_append_left _ _)⟩
  case ended =>
    intro f' hf' o ho
    obtain ⟨f₀, hf₀, rfl⟩ := (b.desk.mem_fetches_resolve).mp hf'
    by_cases heq : f₀.generation = f.generation
    · obtain rfl := h.fetch_eq hf₀ hmem heq
      rw [if_pos rfl, Fetch.resolve_of_open hopen] at ho ⊢
      cases ho
      exact ⟨b.now, by simp⟩
    · rw [if_neg heq] at ho ⊢
      obtain ⟨t, ht⟩ := h.ended f₀ hf₀ o ho
      exact ⟨t, List.mem_append_left _ ht⟩
  case resolved =>
    intro g t o hev
    rcases List.mem_append.mp hev with hold | hnew
    · obtain ⟨ht, f₀, hf₀, hgen, hout, hsnap⟩ := h.resolved g t o hold
      have hne : f₀.generation ≠ f.generation := by
        intro heq
        rw [h.fetch_eq hf₀ hmem heq, hopen] at hout
        simp at hout
      exact ⟨ht, f₀, hkept f₀ hf₀ hne, hgen, hout, hsnap⟩
    · obtain ⟨rfl, rfl, rfl⟩ := Event.resolved.inj (List.mem_singleton.mp hnew)
      refine ⟨Nat.le_refl _, _, hended, rfl, rfl, ?_⟩
      intro c hc
      obtain ⟨hbase, -, htime⟩ := Fetch.outcomeOf_eq_ok hc
      exact ⟨hbase, htime⟩

/-- The end of a request keeps the parts together. -/
theorem of_leave (h : Sound b) (w : Waiter) (outcome : Except FetchFault Snapshot) :
    Sound (b.dismissed w outcome) := by
  refine h.of_same_fetches rfl ?_ ?_ (Nat.le_refl _) (List.subset_append_left _ _)
    (by simp) (fun _ hw => .inl (mem_others hw))
  · exact RateState.leave_generation _ _ _ _ _
  · intro i hi
    exact (inFlight_dismissed_iff.mp hi).1

/-- **Every step keeps the parts together.** -/
theorem of_step {a : Action} (h : Sound b) (hstep : Step b a b') : Sound b' := by
  cases hstep with
  | refused s _ => exact h.of_admit s _ (by simp [Entry.awaited?])
  | served s _ c _ => exact h.of_admit s _ (by simp [Entry.awaited?])
  | joined s hkey _ i hslot hbase =>
    refine h.of_admit s _ ?_
    intro g hg
    cases hg
    obtain ⟨-, f, hf, hgen, hfbase⟩ := h.slot i hslot
    exact ⟨hkey, f, hf, hgen, hfbase.trans hbase⟩
  | started s hkey _ _ => exact h.of_start s hkey
  | resolved f answer hf hopen => exact h.of_resolve f answer hf hopen
  | left w _ outcome _ => exact h.of_leave w outcome
  | abandoned caller =>
    exact h.of_same_fetches rfl rfl (fun _ hf => hf) (Nat.le_refl _) (List.Subset.refl _)
      (fun _ _ _ he => he) (fun _ hw => .inl (mem_others hw))
  | waited ms =>
    exact h.of_same_fetches rfl rfl (fun _ hf => hf) (Nat.le_add_right _ _) (List.Subset.refl _)
      (fun _ _ _ he => he) (fun _ hw => .inl hw)

end Sound

theorem sound_opened (script : Script) : Sound (opened script) where
  generations := rfl
  slot := by simp [opened]
  waiter := by simp [opened]
  ended := by simp [opened]
  resolved := by simp [opened]

/-- So they do after every run, if they did before it. -/
theorem Sound.run {b : Bureau} (h : Sound b) (actions : List Action) : Sound (b.run actions) :=
  run_induction (Q := fun _ => True) (fun _ _ _ _ hb hstep => hb.of_step hstep) h
    (fun _ _ => trivial)

/-- **After every run the parts of a bureau belong together.** -/
theorem sound_run (script : Script) (actions : List Action) : Sound ((opened script).run actions) :=
  (sound_opened script).run actions

end Bureau

end Launcher.Currency
