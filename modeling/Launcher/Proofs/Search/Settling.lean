import Launcher.Proofs.Search.Actions
import Launcher.Proofs.Search.Ground
import Launcher.Search.Timeline

namespace Launcher

/-!
# How a search ends

A caller waits for a search until it has ended, and meanwhile the pending submission goes on too and
may publish its outcome. What the caller is told must be what is shown at that moment, with results
whose actions can be carried out.

* `Interpretation.IsInterpreted`, `Run.isInterpreted_begin`, `Run.isInterpreted_again` — what the
  interpretation of a run answers with is like what interpreters make.
* `Engine.Holds` — what a search has published is what is shown.
* `Engine.holds_search`, `Engine.holds_again` — each look at a search keeps that.
* `Engine.holds_pollUnlessEnded` — a submission does not publish anything once the search has ended.
* `Engine.finish_singleton` — so it is when the search has ended, whatever else was pending.
-/

/-! ### Runs -/

namespace Interpretation

/-- The results of an answer are like those that interpreters make. -/
def IsInterpreted (i : Interpretation) : Prop :=
  ∀ answer, i = answered answer → Interpreted answer.hits

/-- An interpretation with an answer is like that answer. -/
theorem isInterpreted_answered {answer : Answer} (h : Interpreted answer.hits) :
    (answered answer).IsInterpreted := by
  rintro _ ⟨⟩
  exact h

/-- Whatever has come of the rates, the results are those of an exchange. -/
theorem isInterpreted_ofProgress (exchange : Currency.Exchange) (progress : Currency.Progress) :
    (ofProgress exchange progress).IsInterpreted := by
  unfold ofProgress
  split
  next => exact nofun
  next => exact nofun
  next => exact isInterpreted_answered (interpreted_ofRates exchange _)

/-- An interpretation begins so. -/
theorem isInterpreted_begin (settings : Settings) (desk : Currency.Desk) (now : Nat)
    (query : String) : (begin settings desk now query).1.IsInterpreted := by
  unfold begin
  split
  next answer hplan => exact isInterpreted_answered (interpreted_plan hplan)
  next exchange _ =>
    rcases desk.look (.ofSettings settings) now with ⟨progress, desk'⟩
    exact isInterpreted_ofProgress exchange progress

/-- It stays so when it is looked at again. -/
theorem IsInterpreted.again {i : Interpretation} (h : i.IsInterpreted) (settings : Settings)
    (desk : Currency.Desk) (now : Nat) : (i.again settings desk now).1.IsInterpreted := by
  cases i with
  | waiting exchange generation =>
    unfold Interpretation.again
    dsimp only
    rcases desk.poll (.ofSettings settings) generation now with ⟨progress, desk'⟩
    exact isInterpreted_ofProgress exchange progress
  | answered | broken => exact h

/-- The actions of an answer are known. -/
def IsKnown (i : Interpretation) : Prop :=
  ∀ answer, i = answered answer → Known answer.hits

/-- The actions of what interpreters make are known. -/
theorem IsInterpreted.isKnown {i : Interpretation} (h : i.IsInterpreted) : i.IsKnown :=
  fun answer hanswer => (h answer hanswer).known

/-- The actions are known after a further look, since what comes of rates is made by an
interpreter. -/
theorem IsKnown.again {i : Interpretation} (h : i.IsKnown) (settings : Settings)
    (desk : Currency.Desk) (now : Nat) : (i.again settings desk now).1.IsKnown := by
  cases i with
  | waiting exchange generation =>
    have hwaiting : (waiting exchange generation).IsInterpreted := nofun
    exact (hwaiting.again settings desk now).isKnown
  | answered | broken => exact h

end Interpretation

namespace Run

/-- The interpretation of a run begins so. -/
theorem isInterpreted_begin (s : Sources) (now ticket : Nat) (query : String) :
    (Run.begin s now ticket query).1.interpretation.IsInterpreted := by
  have hbegin := Interpretation.isInterpreted_begin s.settings s.desk now (Text.trimmed query)
  unfold Run.begin
  dsimp only
  split
  next => exact Interpretation.isInterpreted_answered interpreted_nil
  next =>
    -- The items of a run have no bearing on its interpretation.
    generalize Interpretation.begin s.settings s.desk now (Text.trimmed query) = begun at hbegin ⊢
    obtain ⟨interpretation, desk⟩ := begun
    rcases Sources.discover { s with desk } with ⟨items, s'⟩
    exact hbegin

theorem isInterpreted_again {r : Run} (h : r.interpretation.IsInterpreted) (s : Sources)
    (now : Nat) : (r.again s now).1.interpretation.IsInterpreted :=
  h.again s.settings s.desk now

/-- What is known of a run that waits for nothing more is the answer of its interpreter. -/
theorem interpretation_of_complete {r : Run} {answer : Answer}
    (h : r.findings? = some (.complete answer)) : r.interpretation = .answered answer := by
  unfold findings? at h
  split at h
  next => exact nomatch h
  next answer' hanswer =>
    split at h
    next =>
      obtain rfl : answer' = answer := by simpa using h
      exact hanswer
    next => exact nomatch h
  next => exact nomatch h

end Run

/-! ### Searches -/

namespace Engine

/-- What a search has published is shown, and what it goes on with has known actions. -/
structure Holds (e : Engine) (x : Search) : Prop where
  running : ∀ run, x = .running run → run.interpretation.IsKnown
  published : ∀ outcome, x = .published outcome →
    e.board.shown = some outcome ∧ outcome.ranking.IsProper

/-- A run that goes on waits, or ends without publishing anything, or has its outcome shown. -/
theorem holds_proceed (e : Engine) {r : Run} (h : r.interpretation.IsKnown) (notify : Bool) :
    (e.proceed r notify).2.Holds (e.proceed r notify).1 := by
  unfold proceed settle?
  rcases e.conclude?_cases r with
    ⟨-, hwaits⟩ | ⟨-, hbroken⟩ | ⟨-, -, -, hpassed⟩ | ⟨answer, hanswer, hcurrent, hmade⟩
  · rw [hwaits]
    exact ⟨fun _ hrun => Search.running.inj hrun ▸ h, nofun⟩
  · rw [hbroken]
    exact ⟨nofun, nofun⟩
  · rw [hpassed]
    exact ⟨nofun, nofun⟩
  · rw [hmade, Option.map_some, Ground.carryOut, Ground.deliver_of_current hcurrent]
    have hknown := h answer (Run.interpretation_of_complete hanswer)
    constructor
    · rintro _ ⟨⟩
    · rintro _ ⟨⟩
      exact ⟨rfl, r.outcome_ranking .. ▸ isProper_ranking _ _ r hknown⟩

/-- So it is when a search begins. -/
theorem holds_search (e : Engine) (query : String) :
    (e.search query).2.Holds (e.search query).1 := by
  have hrun := (Run.isInterpreted_begin e.sources e.now (e.board.latest + 1) query).isKnown
  rcases hbegin : Run.begin e.sources e.now (e.board.latest + 1) query with ⟨run, sources⟩
  rw [hbegin] at hrun
  rw [search_eq hbegin]
  exact holds_proceed _ hrun false

/-- So it is when a search is looked at again. -/
theorem holds_again {e : Engine} {x : Search} (h : e.Holds x) :
    (e.again x).2.Holds (e.again x).1 := by
  cases x with
  | running run =>
    have hrun : (run.again e.sources e.now).1.interpretation.IsKnown :=
      (h.running run rfl).again _ _ _
    rcases hagain : run.again e.sources e.now with ⟨run', sources⟩
    rw [hagain] at hrun
    rw [again_eq hagain]
    exact holds_proceed _ hrun false
  | published | superseded | broken => exact h

/-- The pending submission is looked at only while the search runs, so that what it publishes does
not take the place of what the search has published. -/
theorem holds_pollUnlessEnded {e : Engine} {x : Search} (h : e.Holds x) :
    (e.pollUnlessEnded [x]).Holds x := by
  cases x with
  | running run => exact ⟨h.running, nofun⟩
  | published | superseded | broken => exact h

@[simp] theorem finish_nil (e : Engine) : e.finish [] = ([], e) := rfl

/-- So it is after any number of looks. -/
theorem finishWith_singleton (fuel : Nat) {e : Engine} {x : Search} (h : e.Holds x) :
    ∃ y e', e.finishWith [x] fuel = ([y], e') ∧ e'.Holds y := by
  induction fuel generalizing e x with
  | zero => exact ⟨x, e, rfl, h⟩
  | succ fuel ih =>
    unfold finishWith
    split
    next => exact ⟨x, e, rfl, h⟩
    next =>
      split
      next => exact ⟨x, e, rfl, h⟩
      next time _ =>
        -- Time passes, then the search is looked at, and the pending submission after it.
        have hagain : ({ e with now := time } : Engine).Holds x := ⟨h.running, h.published⟩
        exact ih (holds_pollUnlessEnded (holds_again hagain))

/-- When a search has ended, what it has published is what is shown. -/
theorem finish_singleton {e : Engine} {x : Search} (h : e.Holds x) :
    ∃ y e', e.finish [x] = ([y], e') ∧ e'.Holds y :=
  finishWith_singleton _ (holds_pollUnlessEnded h)

end Engine

end Launcher
