import Launcher.Currency.Requests
import Launcher.Proofs.Rates.Desk

namespace Launcher.Currency

/-!
# Looks at a fetch

A request that waits is looked at from time to time: the fetch is settled if it is due, and if it
has ended the request ends as well. The service looks at requests at moments of its own choosing, so
it matters that looking more often changes nothing.

* `Desk.settle_settle` — what was settled is settled.
* `Desk.poll_cases` — what a request learns when it looks at the fetch that it waits for.
* `Desk.poll_again`, `Desk.look_again` — a second look at the same moment finds nothing new.
* `Desk.poll_due` — a look at a fetch that is due ends the request.
* `Desk.look_without_key` — a request without a key has ended at once, and leaves everything as it
  is.

With these the ways in which the service waits are shown to come to the same thing, in
`Launcher.Proofs.Search` and `Launcher.Proofs.Service`.
-/

/-! ### Settling -/

/-- To settle a fetch does not renumber it. -/
@[simp] theorem Fetch.settle_generation (f : Fetch) (now : Nat) :
    (f.settle now).generation = f.generation := by
  unfold Fetch.settle
  split
  next => exact f.resolve_generation _ _
  next => rfl

/-- A fetch that was answered has ended. -/
theorem Fetch.resolve_outcome (f : Fetch) (answer : Except FetchFault Rates) (now : Nat) :
    (f.resolve answer now).outcome.isSome = true := by
  unfold Fetch.resolve
  split
  next => rfl
  next h => exact Option.isNone_eq_false_iff.mp (Bool.eq_false_iff.mpr h)

/-- A fetch ends only once. -/
theorem Fetch.resolve_of_ended {f : Fetch} (h : f.outcome.isSome = true)
    (answer : Except FetchFault Rates) (now : Nat) : f.resolve answer now = f :=
  if_neg (Bool.eq_false_iff.mp (Option.isNone_eq_false_iff.mpr h))

/-- What was settled is settled. -/
theorem Fetch.settle_settle (f : Fetch) (now : Nat) : (f.settle now).settle now = f.settle now := by
  by_cases hdue : f.due ≤ now
  · have hsettled : f.settle now = f.resolve f.answer now := if_pos hdue
    rw [hsettled, Fetch.settle]
    split
    next => exact Fetch.resolve_of_ended (f.resolve_outcome _ _) _ _
    next => rfl
  · have hsettled : f.settle now = f := if_neg hdue
    rw [hsettled, hsettled]

namespace Desk

variable {d d' : Desk} {s : RateSettings} {g now : Nat}

/-- What was settled at the desk is settled. -/
theorem settle_settle (d : Desk) (g now : Nat) :
    (d.settle g now).settle g now = d.settle g now := by
  -- The condition is about the generation, which settling leaves alone.
  have hfetch (f : Fetch) :
      (if (if f.generation = g then f.settle now else f).generation = g then
        (if f.generation = g then f.settle now else f).settle now
      else if f.generation = g then f.settle now else f) =
        if f.generation = g then f.settle now else f := by
    by_cases h : f.generation = g
    · rw [if_pos h, Fetch.settle_generation, if_pos h, Fetch.settle_settle]
    · rw [if_neg h, if_neg h]
  unfold settle
  rw [List.map_map]
  congr 1
  exact List.map_congr_left fun f _ => hfetch f

/-- The fetch that was settled is found as such. -/
theorem fetch?_settle (d : Desk) (g now : Nat) :
    (d.settle g now).fetch? g = (d.fetch? g).map (·.settle now) := by
  -- Settling does not change which fetch has the generation.
  have hgeneration : (fun f : Fetch => f.generation == g) ∘
      (fun f => if f.generation = g then f.settle now else f) = fun f => f.generation == g := by
    funext f
    by_cases h : f.generation = g <;> simp [h]
  rw [fetch?, settle, List.find?_map, hgeneration]
  cases hf : d.fetches.find? (·.generation == g) with
  | none => simp [fetch?, hf]
  | some f =>
    have hgen : f.generation = g := by simpa using List.find?_some hf
    simp [fetch?, hf, hgen]

/-! ### Looks -/

/-- **What a look tells**: the fetch goes on, and the request waits for it; or it has ended, and the
request ends with it. -/
theorem poll_cases (d : Desk) (s : RateSettings) (g now : Nat) :
    ((d.settle g now).outcome? g = none ∧ d.poll s g now = (.waiting g, d.settle g now)) ∨
    ∃ outcome, (d.settle g now).outcome? g = some outcome ∧
      d.poll s g now = (.ended ((d.settle g now).leave s g outcome now).1,
        ((d.settle g now).leave s g outcome now).2) := by
  unfold poll
  dsimp only
  split
  next h => exact .inl ⟨h, rfl⟩
  next outcome h => exact .inr ⟨outcome, h, rfl⟩

/-- A second look at the same moment finds nothing new. -/
theorem poll_again {g' : Nat} (h : d.poll s g now = (.waiting g', d')) :
    d'.poll s g' now = (.waiting g', d') := by
  rcases d.poll_cases s g now with ⟨hnone, hpoll⟩ | ⟨outcome, -, hpoll⟩
  · rw [hpoll] at h
    obtain ⟨hg, rfl⟩ := Prod.mk.inj h
    obtain rfl := Progress.waiting.inj hg
    -- The fetch had not ended when it was settled, and settling again changes nothing.
    rcases (d.settle g now).poll_cases s g now with ⟨-, hagain⟩ | ⟨outcome, hsome, -⟩
    · rw [hagain, settle_settle]
    · rw [settle_settle, hnone] at hsome
      exact nomatch hsome
  · rw [hpoll] at h
    exact nomatch (Prod.mk.inj h).1

/-- So it is after the first look of a request. -/
theorem look_again (h : d.look s now = (.waiting g, d')) :
    d'.poll s g now = (.waiting g, d') := by
  unfold look at h
  split at h
  next => exact nomatch (Prod.mk.inj h).1
  next => exact poll_again h

/-- A look at a fetch that is due ends the request. -/
theorem poll_due {f : Fetch} (hf : d.fetch? g = some f) (hdue : f.due ≤ now) (s : RateSettings) :
    ∃ result d', d.poll s g now = (.ended result, d') := by
  rcases d.poll_cases s g now with ⟨hnone, -⟩ | ⟨outcome, -, hpoll⟩
  · have hended : (f.settle now).outcome.isSome = true := by
      rw [Fetch.settle, if_pos hdue]
      exact f.resolve_outcome _ _
    rw [outcome?, fetch?_settle, hf, Option.map_some, Option.bind_some] at hnone
    rw [hnone] at hended
    exact absurd hended Bool.false_ne_true
  · exact ⟨_, _, hpoll⟩

/-- Without a key a request has ended at once, and leaves everything as it is. -/
theorem look_without_key (h : s.apiKey.isEmpty = true) (d : Desk) (now : Nat) :
    d.look s now = (.ended (.error .notConfigured), d) := by
  unfold look enter RateState.enter
  rw [if_pos h]

end Desk

end Launcher.Currency
