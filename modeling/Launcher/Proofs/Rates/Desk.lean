import Launcher.Currency.Desk
import Mathlib.Data.List.Nodup

namespace Launcher.Currency

/-!
# One request and one fetch at the desk

What each operation on the rates does, said once for all later proofs:

* `RateState.enter_cases` — the four ways in which a request begins;
* `RateState.leave_ok`, `RateState.leave_error` — how a request ends with the outcome of its fetch;
  only the owner of a completion touches the state;
* `RateState.leave_inFlight_iff`, `RateState.leave_cache` — the slot and the cache after that;
* `RateState.fallback_eq_ok` — what stands in when a fetch has failed;
* `Desk.mem_fetches_resolve`, `Desk.outcome?_resolve` — the fetches after an answer has arrived.

These are statements about single operations: nothing is said of their order, and no invariant is
assumed. Later files know the operations by these lemmas alone. The start of the next fetch is given
a name, `Desk.startNext`, with one equation for each part of the desk, since that is the operation
that changes most of them at once.
-/

/-! ### Snapshots -/

/-- The first moment that is not needed any more for a snapshot to be fresh. -/
def Snapshot.freshUntil (c : Snapshot) : Nat :=
  c.fetchedAt + c.ttl.toNat * 1000

/-- A snapshot is stale as soon as its life time has passed, and not before. -/
theorem Snapshot.isStale_iff (c : Snapshot) (now : Nat) :
    c.isStale now = true ↔ c.freshUntil < now := by
  rw [Snapshot.isStale, Snapshot.age, Snapshot.freshUntil, decide_eq_true_eq]
  omega

/-- What is within the grace is not older than both times together. -/
theorem Snapshot.withinGrace?_eq_true {c : Snapshot} {now : Nat} {grace : UInt64}
    (h : c.withinGrace? now grace = some true) :
    c.age now ≤ (c.ttl.toNat + grace.toNat) * 1000 := by
  simp only [Snapshot.withinGrace?] at h
  split at h
  · simpa using h
  · simp at h

namespace RateState

variable (st : RateState) (s : RateSettings)

/-! ### The beginning of a request -/

/-- A fresh snapshot is the cached one, of the asked base, and not stale. -/
theorem fresh?_eq_some_iff {now : Nat} {c : Snapshot} :
    st.fresh? s now = some c ↔ st.cache = some c ∧ c.base = s.base ∧ c.isStale now = false := by
  simp only [fresh?, Option.filter_eq_some_iff, Bool.and_eq_true, beq_iff_eq, Bool.not_eq_true']

/-- **The four ways in which a request begins.** Without a key it is refused; a fresh snapshot of its
base answers it; it joins the fetch that is under way for its base; or else it starts the next
fetch, which takes the place of a fetch for another base. -/
theorem enter_cases (now : Nat) :
    (s.apiKey.isEmpty = true ∧ st.enter s now = (.refused, st)) ∨
    (s.apiKey.isEmpty = false ∧ ∃ c, st.fresh? s now = some c ∧ st.enter s now = (.ready c, st)) ∨
    (s.apiKey.isEmpty = false ∧ st.fresh? s now = none ∧
      ∃ f, st.inFlight = some f ∧ f.base = s.base ∧ st.enter s now = (.join f.generation, st)) ∨
    (s.apiKey.isEmpty = false ∧ st.fresh? s now = none ∧
      (∀ f, st.inFlight = some f → f.base ≠ s.base) ∧
      st.enter s now = (.start (st.generation + 1),
        { st with
          inFlight := some ⟨st.generation + 1, s.base⟩
          generation := st.generation + 1 })) := by
  cases hk : s.apiKey.isEmpty with
  | true => exact .inl ⟨rfl, by simp [enter, hk]⟩
  | false =>
    refine .inr ?_
    cases hc : st.fresh? s now with
    | some c => exact .inl ⟨rfl, c, rfl, by simp [enter, hk, hc]⟩
    | none =>
      refine .inr ?_
      cases hf : st.inFlight.filter (·.base == s.base) with
      | some f =>
        have hslot := Option.filter_eq_some_iff.mp hf
        exact .inl ⟨rfl, rfl, f, hslot.1, by simpa using hslot.2, by simp [enter, hk, hc, hf]⟩
      | none =>
        have hbase : ∀ f, st.inFlight = some f → f.base ≠ s.base := by
          intro f hslot heq
          simp [hslot, heq] at hf
        exact .inr ⟨rfl, rfl, hbase, by simp [enter, hk, hc, hf]⟩

/-! ### The end of a request -/

/-- A completion is owned as long as requests wait for its fetch. -/
theorem owns_iff (g : Nat) : st.owns g = true ↔ ∃ f, st.inFlight = some f ∧ f.generation = g := by
  cases h : st.inFlight <;> simp [owns, h]

/-- A request whose fetch succeeded leaves with the snapshot, and writes it if it owns the
completion. -/
theorem leave_ok (g : Nat) (c : Snapshot) (now : Nat) :
    st.leave s g (.ok c) now =
      (.ok c, if st.owns g then { st with inFlight := none, cache := some c } else st) := by
  unfold leave
  by_cases h : st.owns g = true <;> simp [h]

/-- A request whose fetch failed leaves with the fallback, and the cache stays. -/
theorem leave_error (g : Nat) (cause : FetchFault) (now : Nat) :
    st.leave s g (.error cause) now =
      (st.fallback s cause now, if st.owns g then { st with inFlight := none } else st) := by
  unfold leave
  by_cases h : st.owns g = true <;> simp [h, fallback]

/-- A request that does not own the completion leaves the state as it is. -/
theorem leave_of_not_owns (g : Nat) (outcome : Except FetchFault Snapshot) (now : Nat)
    (h : st.owns g = false) : (st.leave s g outcome now).2 = st := by
  cases outcome with
  | ok c => rw [leave_ok, h]; rfl
  | error cause => rw [leave_error, h]; rfl

/-- Leaving starts no fetch. -/
@[simp] theorem leave_generation (g : Nat) (outcome : Except FetchFault Snapshot) (now : Nat) :
    (st.leave s g outcome now).2.generation = st.generation := by
  cases outcome with
  | ok c => rw [leave_ok]; dsimp only; split <;> rfl
  | error cause => rw [leave_error]; dsimp only; split <;> rfl

/-- After the end of a request for a fetch, requests wait for what they waited for before, and not for
that fetch. -/
theorem leave_inFlight_iff {g : Nat} {outcome : Except FetchFault Snapshot} {now : Nat}
    {f : InFlight} : (st.leave s g outcome now).2.inFlight = some f ↔
      st.inFlight = some f ∧ f.generation ≠ g := by
  -- Whatever the outcome is, the slot is emptied by the owner and by nobody else.
  have hslot : (st.leave s g outcome now).2.inFlight =
      if st.owns g then none else st.inFlight := by
    cases outcome with
    | ok c => rw [leave_ok]; dsimp only; split <;> rfl
    | error cause => rw [leave_error]; dsimp only; split <;> rfl
  rw [hslot]
  by_cases h : st.owns g = true
  · obtain ⟨f', hf', hgen⟩ := (st.owns_iff g).mp h
    rw [if_pos h, hf']
    constructor
    · intro hf
      simp at hf
    · rintro ⟨hf, hne⟩
      cases hf
      exact absurd hgen hne
  · rw [if_neg h]
    constructor
    · intro hf
      exact ⟨hf, fun hgen => h ((st.owns_iff g).mpr ⟨f, hf, hgen⟩)⟩
    · rintro ⟨hf, -⟩
      exact hf

/-- Only the owner of a completion writes the cache, and only after success. -/
theorem leave_cache (g : Nat) (outcome : Except FetchFault Snapshot) (now : Nat) :
    (∃ c, outcome = .ok c ∧ st.owns g = true ∧ (st.leave s g outcome now).2.cache = some c) ∨
    ((∀ c, outcome = .ok c → st.owns g = false) ∧
      (st.leave s g outcome now).2.cache = st.cache) := by
  cases outcome with
  | ok c =>
    rw [leave_ok]
    cases h : st.owns g with
    | true => exact .inl ⟨c, rfl, rfl, by simp⟩
    | false => exact .inr ⟨fun _ _ => rfl, by simp⟩
  | error cause =>
    rw [leave_error]
    refine .inr ⟨by simp, ?_⟩
    dsimp only
    split <;> rfl

/-- A fallback is the cached snapshot of the asked base, within its life time and the grace. -/
theorem fallback_eq_ok {cause : FetchFault} {now : Nat} {c : Snapshot}
    (h : st.fallback s cause now = .ok c) :
    st.cache = some c ∧ c.base = s.base ∧
      c.age now ≤ (c.ttl.toNat + s.grace.toNat) * 1000 := by
  -- Of the ways out only one gives a snapshot: a cached one of the base, within the grace.
  unfold fallback at h
  split at h
  · simp at h
  · rename_i c' hc
    obtain ⟨hcache, hbase⟩ := Option.filter_eq_some_iff.mp hc
    split at h
    · simp at h
    · rename_i hgrace
      cases h
      exact ⟨hcache, by simpa using hbase, Snapshot.withinGrace?_eq_true hgrace⟩
    · simp at h

end RateState

/-! ### Fetches -/

theorem Fetch.resolve_of_open {f : Fetch} (h : f.outcome = none) (answer : Except FetchFault Rates)
    (now : Nat) : f.resolve answer now = { f with outcome := some (f.outcomeOf answer now) } := by
  simp [resolve, h]

/-- An answer does not renumber a fetch. -/
@[simp] theorem Fetch.resolve_generation (f : Fetch) (answer : Except FetchFault Rates) (now : Nat) :
    (f.resolve answer now).generation = f.generation := by
  unfold Fetch.resolve
  split <;> rfl

/-- The snapshot of a fetch has the base and the life time of the fetch, and the time of its end. -/
theorem Fetch.outcomeOf_eq_ok {f : Fetch} {answer : Except FetchFault Rates} {now : Nat}
    {c : Snapshot} (h : f.outcomeOf answer now = .ok c) :
    c.base = f.base ∧ c.ttl = f.ttl ∧ c.fetchedAt = now := by
  cases answer with
  | error cause => simp [outcomeOf, Except.map] at h
  | ok rates =>
    simp only [outcomeOf, Except.map, Except.ok.injEq] at h
    subst h
    exact ⟨rfl, rfl, rfl⟩

namespace Desk

variable (d : Desk)

/-- The next fetch as it is started for a request. -/
def nextFetch (s : RateSettings) (now : Nat) : Fetch :=
  ⟨d.state.generation + 1, s.base, s.ttl, now + d.script.next.1.delay, d.script.next.1.answer, none⟩

/-- The desk with the next fetch started for a request, for which requests wait from now on. -/
def startNext (s : RateSettings) (now : Nat) : Desk :=
  { d with
    state :=
      { d.state with
        inFlight := some ⟨d.state.generation + 1, s.base⟩
        generation := d.state.generation + 1 } }.start s (d.state.generation + 1) now

@[simp] theorem startNext_cache (s : RateSettings) (now : Nat) :
    (d.startNext s now).state.cache = d.state.cache := rfl

@[simp] theorem startNext_inFlight (s : RateSettings) (now : Nat) :
    (d.startNext s now).state.inFlight = some ⟨d.state.generation + 1, s.base⟩ := rfl

@[simp] theorem startNext_generation (s : RateSettings) (now : Nat) :
    (d.startNext s now).state.generation = d.state.generation + 1 := rfl

@[simp] theorem startNext_fetches (s : RateSettings) (now : Nat) :
    (d.startNext s now).fetches = d.fetches ++ [d.nextFetch s now] := rfl

@[simp] theorem leave_result (s : RateSettings) (g : Nat) (outcome : Except FetchFault Snapshot)
    (now : Nat) : (d.leave s g outcome now).1 = (d.state.leave s g outcome now).1 := rfl

/-- An answer changes the fetches of its generation only. -/
theorem mem_fetches_resolve {g : Nat} {answer : Except FetchFault Rates} {now : Nat} {f' : Fetch} :
    f' ∈ (d.resolve g answer now).fetches ↔
      ∃ f ∈ d.fetches, f' = if f.generation = g then f.resolve answer now else f := by
  simp only [resolve, List.mem_map, eq_comm]

/-- Nor does it renumber any other. -/
theorem map_generation_resolve (g : Nat) (answer : Except FetchFault Rates) (now : Nat) :
    (d.resolve g answer now).fetches.map (·.generation) = d.fetches.map (·.generation) := by
  simp only [resolve, List.map_map]
  apply List.map_congr_left
  intro f _
  by_cases h : f.generation = g <;> simp [h]

/-- A fetch that is found is there, and has the generation. -/
theorem fetch?_eq_some {g : Nat} {f : Fetch} (h : d.fetch? g = some f) :
    f ∈ d.fetches ∧ f.generation = g :=
  ⟨List.mem_of_find?_eq_some h, by simpa using List.find?_some h⟩

/-- An outcome is that of a fetch of the generation. -/
theorem outcome?_eq_some {g : Nat} {o : Except FetchFault Snapshot} (h : d.outcome? g = some o) :
    ∃ f ∈ d.fetches, f.generation = g ∧ f.outcome = some o := by
  obtain ⟨f, hf, ho⟩ := Option.bind_eq_some_iff.mp h
  obtain ⟨hmem, hgen⟩ := d.fetch?_eq_some hf
  exact ⟨f, hmem, hgen, ho⟩

/-- The fetch of a generation is found where it was, with the answer if it is its own. -/
theorem fetch?_resolve (g g' : Nat) (answer : Except FetchFault Rates) (now : Nat) :
    (d.resolve g answer now).fetch? g' =
      (d.fetch? g').map fun f => if f.generation = g then f.resolve answer now else f := by
  have hgeneration : (fun f : Fetch => f.generation == g') ∘
      (fun f => if f.generation = g then f.resolve answer now else f) =
        fun f => f.generation == g' := by
    funext f
    by_cases h : f.generation = g <;> simp [h]
  rw [fetch?, resolve, List.find?_map, hgeneration]
  rfl

/-- An answer ends a fetch that is under way. -/
theorem outcome?_resolve {f : Fetch} (hf : d.fetch? f.generation = some f) (hopen : f.outcome = none)
    (answer : Except FetchFault Rates) (now : Nat) :
    (d.resolve f.generation answer now).outcome? f.generation = some (f.outcomeOf answer now) := by
  rw [outcome?, fetch?_resolve, hf, Option.map_some, if_pos rfl, Fetch.resolve_of_open hopen]
  rfl

end Desk

end Launcher.Currency
