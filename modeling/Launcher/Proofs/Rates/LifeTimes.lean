import Launcher.Currency.Requests
import Launcher.Proofs.Rates.Desk

namespace Launcher.Currency

/-!
# Life times that add up

Whether a snapshot is within the grace is found by adding its life time and the time of grace. Both
have sixty-four bits, and a sum that does not fit breaks the request off. This file finds out when
that can happen, for one desk.

* `RateState.fallback_eq_overflow_iff` — a fallback breaks off exactly if there is a snapshot that
  could stand in, and its life time and the time of grace are too long together.
* `Desk.LivesWithin` — no snapshot at the desk, and none that a fetch will bring, lives longer than
  a limit.
* `Desk.LivesWithin.look`, `Desk.LivesWithin.poll` — requests keep it so, and as long as the limit
  and the time of grace add up to a duration, no request breaks off.

The life time of a snapshot is that of the settings with which its fetch was started, and these may
differ from the settings of the request that looks at it later. So the limit is a number of its own,
and what is kept is that everything at the desk lives within it. The cache is filled from fetches
only, so fetches have to be bounded as well, before they end and after.
-/

/-! ### Fallbacks -/

/-- The life time of a snapshot is within a limit. -/
def Snapshot.LivesWithin (c : Snapshot) (limit : Nat) : Prop :=
  c.ttl.toNat ≤ limit

variable {limit now : Nat} {s : RateSettings}

/-- The sum of the two times fails to exist just when it does not fit. -/
theorem Snapshot.withinGrace?_eq_none_iff {c : Snapshot} {grace : UInt64} :
    c.withinGrace? now grace = none ↔ UInt64.size ≤ c.ttl.toNat + grace.toNat := by
  unfold withinGrace?
  dsimp only
  split
  next h => exact iff_of_false (Option.some_ne_none _) (Nat.not_le.mpr h)
  next h => exact iff_of_true rfl (Nat.not_lt.mp h)

/-- A fallback breaks off exactly if there is a snapshot of its base whose life time is too long to be
added to the time of grace. -/
theorem RateState.fallback_eq_overflow_iff {st : RateState} {cause : FetchFault} :
    st.fallback s cause now = .error .graceOverflow ↔
      ∃ c, st.cache = some c ∧ c.base = s.base ∧ UInt64.size ≤ c.ttl.toNat + s.grace.toNat := by
  unfold fallback
  constructor
  · intro h
    split at h
    next => simp at h
    next c hc =>
      obtain ⟨hcache, hbase⟩ := Option.filter_eq_some_iff.mp hc
      split at h
      next hgrace =>
        exact ⟨c, hcache, eq_of_beq hbase, Snapshot.withinGrace?_eq_none_iff.mp hgrace⟩
      next => simp at h
      next => simp at h
  · rintro ⟨c, hcache, hbase, hsum⟩
    have hc : st.cache.filter (·.base == s.base) = some c :=
      Option.filter_eq_some_iff.mpr ⟨hcache, beq_iff_eq.mpr hbase⟩
    rw [hc]
    dsimp only
    rw [Snapshot.withinGrace?_eq_none_iff.mpr hsum]

/-- No fallback breaks off as long as the cached snapshot lives within the limit. -/
theorem RateState.fallback_ne_overflow {st : RateState}
    (hcache : ∀ c, st.cache = some c → c.LivesWithin limit)
    (hsum : limit + s.grace.toNat < UInt64.size) (cause : FetchFault) :
    st.fallback s cause now ≠ .error .graceOverflow := by
  intro h
  obtain ⟨c, hc, -, htoo⟩ := fallback_eq_overflow_iff.mp h
  have hlives : c.ttl.toNat ≤ limit := hcache c hc
  omega

/-- A request breaks off only by its fallback. -/
theorem RateState.leave_ne_overflow {st : RateState}
    (hcache : ∀ c, st.cache = some c → c.LivesWithin limit)
    (hsum : limit + s.grace.toNat < UInt64.size) (g : Nat) (outcome : Except FetchFault Snapshot) :
    (st.leave s g outcome now).1 ≠ .error .graceOverflow := by
  cases outcome with
  | ok c =>
    rw [leave_ok]
    exact nofun
  | error cause =>
    rw [leave_error]
    exact fallback_ne_overflow hcache hsum cause

/-! ### The desk -/

/-- The life times of a fetch and of what it brought are within a limit. -/
structure Fetch.LivesWithin (f : Fetch) (limit : Nat) : Prop where
  ttl : f.ttl.toNat ≤ limit
  outcome : ∀ c, f.outcome = some (.ok c) → c.LivesWithin limit

theorem Fetch.LivesWithin.resolve {f : Fetch} (h : f.LivesWithin limit)
    (answer : Except FetchFault Rates) (now : Nat) : (f.resolve answer now).LivesWithin limit := by
  unfold Fetch.resolve
  split
  next =>
    refine ⟨h.ttl, ?_⟩
    intro c hc
    -- The snapshot lives as long as the request asked for.
    obtain ⟨-, httl, -⟩ := Fetch.outcomeOf_eq_ok (Option.some.inj hc)
    show c.ttl.toNat ≤ limit
    rw [httl]
    exact h.ttl
  next => exact h

/-- To settle a fetch is to answer it, or to leave it as it is. -/
theorem Fetch.LivesWithin.settle {f : Fetch} (h : f.LivesWithin limit) (now : Nat) :
    (f.settle now).LivesWithin limit := by
  unfold Fetch.settle
  split
  next => exact h.resolve f.answer now
  next => exact h

namespace Desk

/-- No snapshot at the desk lives longer than a limit, and none that a fetch will bring. -/
structure LivesWithin (d : Desk) (limit : Nat) : Prop where
  cache : ∀ c, d.state.cache = some c → c.LivesWithin limit
  fetches : ∀ f ∈ d.fetches, f.LivesWithin limit

namespace LivesWithin

variable {d : Desk}

/-- A change of the fetches that keeps their life times keeps those at the desk. -/
theorem of_fetches (h : d.LivesWithin limit) {change : Fetch → Fetch}
    (hchange : ∀ f, f.LivesWithin limit → (change f).LivesWithin limit) (g : Nat) :
    LivesWithin
      { d with fetches := d.fetches.map fun f => if f.generation = g then change f else f } limit where
  cache := h.cache
  fetches f hf := by
    obtain ⟨f', hf', rfl⟩ := List.mem_map.mp hf
    split
    · exact hchange f' (h.fetches f' hf')
    · exact h.fetches f' hf'

theorem settle (h : d.LivesWithin limit) (g now : Nat) : (d.settle g now).LivesWithin limit :=
  h.of_fetches (fun _ hf => hf.settle now) g

/-- An answer keeps it. -/
theorem resolve (h : d.LivesWithin limit) (g : Nat) (answer : Except FetchFault Rates) (now : Nat) :
    (d.resolve g answer now).LivesWithin limit :=
  h.of_fetches (fun _ hf => hf.resolve answer now) g

/-- The snapshot that a fetch has brought lives within it. -/
theorem outcome? (h : d.LivesWithin limit) {g : Nat} {c : Snapshot}
    (hc : d.outcome? g = some (.ok c)) : c.LivesWithin limit := by
  obtain ⟨f, hf, -, houtcome⟩ := d.outcome?_eq_some hc
  exact (h.fetches f hf).outcome c houtcome

/-- A caller that leaves writes what its fetch has brought. -/
theorem leave (h : d.LivesWithin limit) (g now : Nat) {outcome : Except FetchFault Snapshot}
    (houtcome : ∀ c, outcome = .ok c → c.LivesWithin limit) :
    (d.leave s g outcome now).2.LivesWithin limit where
  cache c hc := by
    obtain ⟨c', rfl, -, hcache⟩ | ⟨-, hcache⟩ := d.state.leave_cache s g outcome now
    · obtain rfl : c' = c := Option.some.inj (hcache.symm.trans hc)
      exact houtcome c' rfl
    · exact h.cache c (hcache.symm.trans hc)
  fetches := h.fetches

/-- One look of a request at the fetch that it waits for. -/
theorem poll (h : d.LivesWithin limit) (hsum : limit + s.grace.toNat < UInt64.size) (g now : Nat) :
    (d.poll s g now).2.LivesWithin limit ∧
      (d.poll s g now).1 ≠ .ended (.error .graceOverflow) := by
  have hsettled := h.settle g now
  unfold Desk.poll
  dsimp only
  split
  next => exact ⟨hsettled, nofun⟩
  next outcome houtcome =>
    have hlives : ∀ c, outcome = .ok c → c.LivesWithin limit := by
      rintro c rfl
      exact hsettled.outcome? houtcome
    refine ⟨hsettled.leave g now hlives, ?_⟩
    intro hended
    exact RateState.leave_ne_overflow hsettled.cache hsum g outcome (Progress.ended.inj hended)

/-- The start of the next fetch. -/
theorem startNext (h : d.LivesWithin limit) (hs : s.ttl.toNat ≤ limit) (now : Nat) :
    (d.startNext s now).LivesWithin limit where
  cache := h.cache
  fetches f hf := by
    rw [startNext_fetches] at hf
    obtain hf | hf := List.mem_append.mp hf
    · exact h.fetches f hf
    · obtain rfl := List.mem_singleton.mp hf
      exact ⟨hs, nofun⟩

/-- The beginning of a request keeps the limit and breaks nothing off. -/
theorem enter (h : d.LivesWithin limit) (hs : s.ttl.toNat ≤ limit) (now : Nat) :
    (d.enter s now).2.LivesWithin limit ∧
      (d.enter s now).1 ≠ .ended (.error .graceOverflow) := by
  unfold Desk.enter
  obtain ⟨-, hentry⟩ | ⟨-, c, -, hentry⟩ | ⟨-, -, f, -, -, hentry⟩ | ⟨-, -, -, hentry⟩ :=
    d.state.enter_cases s now
  · -- Refused, served from the cache, or waiting for a fetch that is there: the desk stays.
    rw [hentry]
    exact ⟨⟨h.cache, h.fetches⟩, nofun⟩
  · rw [hentry]
    exact ⟨⟨h.cache, h.fetches⟩, nofun⟩
  · rw [hentry]
    exact ⟨⟨h.cache, h.fetches⟩, nofun⟩
  · rw [hentry]
    exact ⟨h.startNext hs now, nofun⟩

/-- The beginning of a request and the first look at what it waits for. -/
theorem look (h : d.LivesWithin limit) (hs : s.ttl.toNat ≤ limit)
    (hsum : limit + s.grace.toNat < UInt64.size) (now : Nat) :
    (d.look s now).2.LivesWithin limit ∧
      (d.look s now).1 ≠ .ended (.error .graceOverflow) := by
  have henter := h.enter hs now
  unfold Desk.look
  split
  next result d' heq =>
    rw [heq] at henter
    exact henter
  next g d' heq =>
    rw [heq] at henter
    exact henter.1.poll hsum g now

end LivesWithin

end Desk

end Launcher.Currency
