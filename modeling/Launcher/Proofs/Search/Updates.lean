import Launcher.Proofs.Search.Ground
import Launcher.Search.Timeline

namespace Launcher

/-!
# Updates are only written

Updates wait on the board until somebody receives them. Whether they have been received has no
bearing on anything else: an engine only ever adds to them. So two engines that differ in them alone
answer alike, which is what allows a dialogue to write updates at any time between its answers.

* `Engine.holding` — an engine with other updates that were not yet received.
* `Engine.Alike` — two engines that differ in nothing else.
* `Engine.Same` — answers that are equal, with engines that are alike.
* `Alike.proceed` — a run goes on alike; every other look comes down to that.
* `Alike.search`, `Alike.finish`, `Alike.sleep` — no operation looks at the updates.
-/

/-- An engine with other updates that were not yet received. -/
def Engine.holding (e : Engine) (updates : List Outcome) : Engine :=
  { e with board := { e.board with updates } }

namespace Engine

/-- Two engines differ in nothing but the updates that were not yet received. -/
def Alike (e e' : Engine) : Prop :=
  ∃ updates, e' = e.holding updates

/-- Two answers are equal, and their engines are alike. -/
def Same {α : Type} (x y : α × Engine) : Prop :=
  ∃ updates, y = (x.1, x.2.holding updates)

variable {e e' : Engine}

/-- An engine is like itself with other updates. -/
theorem alike_holding (e : Engine) (updates : List Outcome) : e.Alike (e.holding updates) :=
  ⟨updates, rfl⟩

namespace Alike

/-- Equal answers of engines that are alike. -/
theorem same {α : Type} (h : e.Alike e') (answer : α) : Same (answer, e) (answer, e') := by
  obtain ⟨updates, rfl⟩ := h
  exact ⟨updates, rfl⟩

/-- Time passes for both. -/
theorem wait (h : e.Alike e') (now : Nat) : Alike { e with now } { e' with now } := by
  obtain ⟨updates, rfl⟩ := h
  exact ⟨updates, rfl⟩

/-- Both get the same sources. -/
theorem sources (h : e.Alike e') (sources : Sources) :
    Alike { e with sources } { e' with sources } := by
  obtain ⟨updates, rfl⟩ := h
  exact ⟨updates, rfl⟩

/-! ### Looks -/

/-- A run goes on alike. -/
theorem proceed (h : e.Alike e') (r : Run) (notify : Bool) :
    Same (e.proceed r notify) (e'.proceed r notify) := by
  obtain ⟨updates, rfl⟩ := h
  have hconclude : (e.holding updates).conclude? r = e.conclude? r := rfl
  unfold Engine.proceed settle?
  rw [hconclude]
  rcases e.conclude?_cases r with ⟨-, hc⟩ | ⟨-, hc⟩ | ⟨-, -, -, hc⟩ | ⟨answer, -, hcurrent, hc⟩ <;>
    rw [hc]
  · exact ⟨updates, rfl⟩
  · exact ⟨updates, rfl⟩
  · exact ⟨updates, rfl⟩
  · -- Both publish, as the ticket is the last one of both; only what was sent before differs.
    have hheld : (e.holding updates).board.latest = r.ticket := hcurrent
    simp only [Option.map_some, Option.getD_some, Ground.carryOut]
    rw [Ground.deliver_of_current hcurrent, Ground.deliver_of_current hheld]
    exact ⟨_, rfl⟩

/-- A search is looked at again alike. -/
theorem again (h : e.Alike e') (search : Search) : Same (e.again search) (e'.again search) := by
  cases search with
  | running run =>
    obtain ⟨updates, rfl⟩ := h
    rcases hagain : run.again e.sources e.now with ⟨run', sources⟩
    have hheld : run.again (e.holding updates).sources (e.holding updates).now = (run', sources) :=
      hagain
    rw [again_eq hagain, again_eq hheld]
    exact ((alike_holding e updates).sources sources).proceed run' false
  | published | superseded | broken => exact h.same _

/-- The run of a submission goes on alike. -/
theorem proceedPending (h : e.Alike e') (r : Run) :
    (e.proceedPending r).Alike (e'.proceedPending r) := by
  obtain ⟨updates, hproceed⟩ := h.proceed r true
  unfold Engine.proceedPending
  rw [hproceed]
  rcases e.proceed r true with ⟨search, e⟩
  cases search <;> exact ⟨updates, rfl⟩

/-- What is pending is looked at alike. -/
theorem poll (h : e.Alike e') : e.poll.Alike e'.poll := by
  obtain ⟨updates, rfl⟩ := h
  have halike := alike_holding e updates
  cases hpending : e.pending with
  | none =>
    have hheld : (e.holding updates).pending = none := hpending
    rw [poll_none hpending, poll_none hheld]
    exact halike
  | some p =>
    have hheld : (e.holding updates).pending = some p := hpending
    cases p with
    | debouncing ticket query due =>
      rcases hbegin : Run.begin e.sources e.now ticket query with ⟨run, sources⟩
      rw [poll_debouncing hpending hbegin, poll_debouncing hheld hbegin]
      by_cases hdue : e.now < due
      · have hdueHeld : (e.holding updates).now < due := hdue
        rw [if_pos hdue, if_pos hdueHeld]
        exact halike
      · have hdueHeld : ¬(e.holding updates).now < due := hdue
        rw [if_neg hdue, if_neg hdueHeld]
        have hcurrent : (e.holding updates).board.isCurrent ticket = e.board.isCurrent ticket := rfl
        rw [hcurrent]
        split
        · exact (halike.sources sources).proceedPending run
        · exact ⟨updates, rfl⟩
    | running run =>
      rcases hagain : run.again e.sources e.now with ⟨run', sources⟩
      rw [poll_running hpending hagain, poll_running hheld hagain]
      exact (halike.sources sources).proceedPending run'

/-- Whether it is looked at depends on the searches alone. -/
theorem pollUnlessEnded (h : e.Alike e') (searches : List Search) :
    (e.pollUnlessEnded searches).Alike (e'.pollUnlessEnded searches) := by
  unfold Engine.pollUnlessEnded
  split
  · exact h
  · exact h.poll

/-- When something can go on does not depend on the updates. -/
theorem wakeAt?_eq (h : e.Alike e') (searches : List Search) :
    e'.wakeAt? searches = e.wakeAt? searches := by
  obtain ⟨updates, rfl⟩ := h
  rfl

/-! ### Longer times -/

/-- Some searches are looked at again alike. -/
theorem againAll (h : e.Alike e') (searches : List Search) :
    Same (e.againAll searches) (e'.againAll searches) := by
  induction searches generalizing e e' with
  | nil => exact h.same []
  | cons search rest ih =>
    obtain ⟨updates, hagain⟩ := h.again search
    unfold Engine.againAll
    rw [hagain]
    rcases e.again search with ⟨search, e⟩
    -- The rest is looked at by the engines that the first look has left, which are alike again.
    obtain ⟨updates, hrest⟩ := ih (alike_holding e updates)
    simp only [hrest]
    exact ⟨updates, rfl⟩

/-- Any number of rounds comes to the same. -/
theorem finishWith (h : e.Alike e') (searches : List Search) (fuel : Nat) :
    Same (e.finishWith searches fuel) (e'.finishWith searches fuel) := by
  induction fuel generalizing e e' searches with
  | zero => exact h.same searches
  | succ fuel ih =>
    unfold Engine.finishWith
    rw [h.wakeAt?_eq]
    split
    next => exact h.same searches
    next =>
      split
      next => exact h.same searches
      next time _ =>
        obtain ⟨updates, hagain⟩ := (h.wait time).againAll searches
        rw [hagain]
        rcases Engine.againAll { e with now := time } searches with ⟨searches, e⟩
        exact ih ((alike_holding e updates).pollUnlessEnded searches) searches

/-- Searches end alike. -/
theorem finish (h : e.Alike e') (searches : List Search) :
    Same (e.finish searches) (e'.finish searches) :=
  (h.pollUnlessEnded searches).finishWith searches _

/-- Waiting until a moment comes to the same, in any number of looks. -/
theorem sleepUntilWith (h : e.Alike e') (wake fuel : Nat) :
    (e.sleepUntilWith wake fuel).Alike (e'.sleepUntilWith wake fuel) := by
  induction fuel generalizing e e' with
  | zero => exact h.wait wake
  | succ fuel ih =>
    unfold Engine.sleepUntilWith
    rw [h.wakeAt?_eq]
    split
    next time _ =>
      split
      · exact ih (h.wait time).poll
      · exact h.wait wake
    next => exact h.wait wake

/-- Time that passes comes to the same. -/
theorem sleep (h : e.Alike e') (ms : Nat) : (e.sleep ms).Alike (e'.sleep ms) := by
  have hnow : e'.now = e.now := by
    obtain ⟨updates, rfl⟩ := h
    rfl
  unfold Engine.sleep sleepUntil
  rw [hnow]
  exact h.sleepUntilWith _ _

/-! ### Queries -/

/-- A query is searched alike. -/
theorem search (h : e.Alike e') (query : String) : Same (e.search query) (e'.search query) := by
  obtain ⟨updates, rfl⟩ := h
  rcases hbegin : Run.begin e.sources e.now (e.board.latest + 1) query with ⟨run, sources⟩
  have hheld : Run.begin (e.holding updates).sources (e.holding updates).now
      ((e.holding updates).board.latest + 1) query = (run, sources) := hbegin
  rw [search_eq hbegin, search_eq hheld]
  exact proceed ⟨updates, rfl⟩ run false

/-- A query is submitted alike. -/
theorem submit (h : e.Alike e') (query : String) : Same (e.submit query) (e'.submit query) := by
  obtain ⟨updates, rfl⟩ := h
  exact ⟨updates, rfl⟩

end Alike

end Engine

end Launcher
