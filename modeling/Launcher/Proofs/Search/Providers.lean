import Launcher.Proofs.Search.Dispatch
import Launcher.Proofs.Search.Frame

namespace Launcher

/-!
# Searches without the providers that fail

A search gives its query to all providers when it begins, and those that fail have no items to add.
So it should make no difference whether they are there at all. It does make one on the way: a search
that has providers waits for their items until its second look, and one that has none does not. What
has to be shown is that this delay changes nothing of how the search ends.

* `Provider.fails`, `Sources.withoutFailing` — the providers that have no items to give, and the
  sources without them.
* `Sources.discover_withoutFailing` — the items are the same without them.
* `Engine.finishWith_withProviders` — once the items are there, providers have no bearing on a
  search.
* `Engine.IsLooked`, `Run.begin_isLooked` — a second look at the moment at which a run begins finds
  nothing new, so nothing is lost when the items come a look later.
* `Engine.finish_late` — items that come late change nothing of how a search ends.
* `Run.begin_withoutFailing` — a run begins as it does without the providers that fail, but may have
  its items later.
* `Engine.searched_withoutFailing` — so a search ends as it does without the providers that fail.
-/

/-! ### Providers -/

/-- The provider has no items to give. -/
def Provider.fails (w : World) (p : Provider) : Bool :=
  !(p.discover w).1.isOk

namespace Sources

/-- The sources with other providers. -/
def withProviders (s : Sources) (providers : List Provider) : Sources :=
  { s with providers }

/-- The sources without the providers that fail. -/
def withoutFailing (s : Sources) : Sources :=
  s.withProviders (s.providers.filter fun p => !p.fails s.world)

/-- Providers that fail add nothing to the items of the others. -/
theorem discoverAll_filter (w : World) (providers : List Provider) :
    (discoverAll w (providers.filter fun p => !p.fails w)).1 = (discoverAll w providers).1 := by
  induction providers with
  | nil => rfl
  | cons p rest ih =>
    rcases hp : p.discover w with ⟨answer, p'⟩
    cases answer with
    | error fault =>
      have hfails : p.fails w = true := by rw [Provider.fails, hp]; rfl
      rw [List.filter_cons_of_neg (by simp [hfails]), ih, discoverAll, hp]
      rfl
    | ok items =>
      have hfails : p.fails w = false := by rw [Provider.fails, hp]; rfl
      rw [List.filter_cons_of_pos (by simp [hfails]), discoverAll, hp, discoverAll, hp]
      exact congrArg (items ++ ·) ih

/-- Asking providers leaves as many as there were, so there is none to wait for exactly if there was
none before. -/
theorem length_discoverAll (w : World) (providers : List Provider) :
    (discoverAll w providers).2.length = providers.length := by
  induction providers with
  | nil => rfl
  | cons p rest ih => exact congrArg (· + 1) ih

/-- The items are the same without the providers that fail. -/
theorem discover_withoutFailing (s : Sources) : s.withoutFailing.discover.1 = s.discover.1 :=
  discoverAll_filter s.world s.providers

end Sources

/-! ### Searches and providers -/

namespace Engine

/-- The engine with other providers. -/
def withProviders (e : Engine) (providers : List Provider) : Engine :=
  { e with sources := e.sources.withProviders providers }

variable {e : Engine} {providers : List Provider}

/-- Going on with a run looks at no provider: the items were drawn when the run began. -/
theorem proceed_withProviders (e : Engine) (providers : List Provider) (r : Run) (notify : Bool) :
    (e.withProviders providers).proceed r notify =
      ((e.proceed r notify).1, (e.proceed r notify).2.withProviders providers) := by
  have hconclude : (e.withProviders providers).conclude? r = e.conclude? r := rfl
  unfold proceed settle?
  rw [hconclude]
  cases e.conclude? r with
  | none => rfl
  | some conclusion => cases conclusion <;> rfl

/-- So it is for a further look at a search. -/
theorem again_withProviders (e : Engine) (providers : List Provider) (search : Search) :
    (e.withProviders providers).again search =
      ((e.again search).1, (e.again search).2.withProviders providers) := by
  cases search with
  | running run =>
    rcases hagain : run.again e.sources e.now with ⟨run', sources⟩
    have hother : run.again (e.withProviders providers).sources (e.withProviders providers).now =
        (run', sources.withProviders providers) :=
      congrArg (fun looked : Run × Sources => (looked.1, looked.2.withProviders providers)) hagain
    rw [again_eq hagain, again_eq hother]
    exact proceed_withProviders { e with sources } providers run' false
  | published | superseded | broken => rfl

/-- A further look at a search leaves the pending submission as it is. -/
theorem again_pending (e : Engine) (search : Search) : (e.again search).2.pending = e.pending := by
  cases search with
  | running run =>
    rcases hagain : run.again e.sources e.now with ⟨run', sources⟩
    rw [again_eq hagain]
    exact proceed_pending _ run' false
  | published | superseded | broken => rfl

/-- Further looks at some searches leave the pending submission as it is. -/
theorem againAll_pending (e : Engine) (searches : List Search) :
    (e.againAll searches).2.pending = e.pending := by
  induction searches generalizing e with
  | nil => rfl
  | cons search rest ih => exact (ih _).trans (e.again_pending search)

/-- Further looks at some searches do the same with other providers. -/
theorem againAll_withProviders (e : Engine) (providers : List Provider) (searches : List Search) :
    (e.withProviders providers).againAll searches =
      ((e.againAll searches).1, (e.againAll searches).2.withProviders providers) := by
  induction searches generalizing e with
  | nil => rfl
  | cons search rest ih =>
    unfold againAll
    rw [again_withProviders]
    simp only [ih]

/-- There is nothing to look at if no submission is pending. -/
theorem pollUnlessEnded_of_none (h : e.pending = none) (searches : List Search) :
    e.pollUnlessEnded searches = e := by
  unfold pollUnlessEnded
  rw [poll_none h, ite_self]

/-- Once no search is to begin, providers have no bearing on how searches end. -/
theorem finishWith_withProviders (h : e.pending = none) (providers : List Provider)
    (searches : List Search) (fuel : Nat) :
    (e.withProviders providers).finishWith searches fuel =
      ((e.finishWith searches fuel).1, (e.finishWith searches fuel).2.withProviders providers) := by
  -- A look begins no search, so nothing is pending in any round.
  induction fuel generalizing e searches with
  | zero => rfl
  | succ fuel ih =>
    have hwake : (e.withProviders providers).wakeAt? searches = e.wakeAt? searches := rfl
    unfold finishWith
    rw [hwake]
    split
    next => rfl
    next =>
      split
      next => rfl
      next time _ =>
        have hagain : againAll { e.withProviders providers with now := time } searches = _ :=
          againAll_withProviders { e with now := time } providers searches
        have hkept := againAll_pending { e with now := time } searches
        rw [hagain]
        rcases hlook : againAll { e with now := time } searches with ⟨looked, e'⟩
        rw [hlook] at hkept
        have hnone : e'.pending = none := hkept.trans h
        have hother : (e'.withProviders providers).pending = none := hnone
        dsimp only
        rw [pollUnlessEnded_of_none hnone, pollUnlessEnded_of_none hother]
        exact ih hnone _

/-- The same for searches that are looked at until their end. -/
theorem finish_withProviders (h : e.pending = none) (providers : List Provider)
    (searches : List Search) :
    (e.withProviders providers).finish searches =
      ((e.finish searches).1, (e.finish searches).2.withProviders providers) := by
  have hother : (e.withProviders providers).pending = none := h
  unfold finish
  rw [pollUnlessEnded_of_none h, pollUnlessEnded_of_none hother]
  exact finishWith_withProviders h providers searches _

/-! ### Late items -/

/-- A search that has ended is looked at no more. -/
theorem finishWith_of_ended (e : Engine) {search : Search} (h : search.isEnded = true)
    (fuel : Nat) :
    e.finishWith [search] fuel = ([search], e) := by
  cases fuel with
  | zero => rfl
  | succ fuel =>
    unfold finishWith
    rw [if_pos (by simpa using h)]

/-- A search that has ended stays as it has ended, whatever else is due. -/
theorem finish_of_ended (e : Engine) {search : Search} (h : search.isEnded = true) :
    e.finish [search] = ([search], e) := by
  have hend : e.pollUnlessEnded [search] = e := if_pos (by simpa using h)
  rw [finish, hend, finishWith_of_ended e h]

/-- A search that is under way is looked at when it can go on. -/
theorem finishWith_running (hpending : e.pending = none) {r : Run} {time : Nat}
    (hwake : r.wakeAt? e.sources e.now = some time) (fuel : Nat) :
    e.finishWith [.running r] (fuel + 1) =
      (again { e with now := time } (.running r)).2.finishWith
        [(again { e with now := time } (.running r)).1] fuel := by
  have htime : e.wakeAt? [.running r] = some time := by
    simp [wakeAt?, Search.wakeAt?, hwake, hpending]
  have hnone := again_pending { e with now := time } (.running r)
  rw [finishWith, if_neg (by simp [Search.isEnded]), htime]
  dsimp only [againAll]
  rw [pollUnlessEnded_of_none (hnone.trans hpending)]

/-- A run that waits for nothing more ends: it is broken off, superseded or published. -/
theorem proceed_isEnded (e : Engine) {r : Run} (h : r.findings?.isSome = true) (notify : Bool) :
    (e.proceed r notify).1.isEnded = true := by
  rcases e.proceed_cases r notify with ⟨hnone, -⟩ | ⟨-, hrun⟩ | ⟨-, hrun⟩ | ⟨o, -, -, hrun⟩
  · rw [hnone] at h
    exact nomatch h
  · rw [hrun]
    rfl
  · rw [hrun]
    rfl
  · rw [hrun]
    rfl

/-- A further look at the interpretation of a run finds nothing new. -/
def IsLooked (e : Engine) (r : Run) : Prop :=
  r.interpretation.again e.sources.settings e.sources.desk e.now =
    (r.interpretation, e.sources.desk)

/-- If a further look finds nothing new, all it does is to bring the items. -/
theorem again_of_isLooked {r : Run} (h : e.IsLooked r) :
    e.again (.running r) = e.proceed { r with hasItems := true } false := by
  have hagain : r.again e.sources e.now = ({ r with hasItems := true }, e.sources) := by
    unfold Run.again
    rw [h]
  exact again_eq hagain

/-- A request that has ended lets its run end. -/
theorem isSome_findings?_of_ended (r : Run) (exchange : Currency.Exchange)
    (result : Except Currency.Fault Currency.Snapshot) :
    ({ r with
      interpretation := .ofProgress exchange (.ended result)
      hasItems := true } : Run).findings?.isSome = true := by
  cases result with
  | ok snapshot => rfl
  | error fault => cases fault <;> rfl

/-- A run that waits for a fetch ends when that is due. -/
theorem again_isEnded_of_due {r : Run} {exchange : Currency.Exchange} {generation due : Nat}
    (hwaits : r.interpretation = .waiting exchange generation)
    (hdue : e.sources.desk.dueAt? generation = some due) (hnow : due ≤ e.now) :
    (e.again (.running r)).1.isEnded = true := by
  obtain ⟨f, hf, hopen⟩ := Option.bind_eq_some_iff.mp hdue
  have hfetch : f.due ≤ e.now := by
    split at hopen
    next => exact Option.some.inj hopen ▸ hnow
    next => exact nomatch hopen
  obtain ⟨result, desk, hpoll⟩ :=
    Currency.Desk.poll_due hf hfetch (.ofSettings e.sources.settings)
  have hagain : r.again e.sources e.now = ({ r with
      interpretation := .ofProgress exchange (.ended result)
      hasItems := true }, { e.sources with desk }) := by
    rw [Run.again, hwaits, Interpretation.again, hpoll]
  rw [again_eq hagain]
  exact proceed_isEnded _ (isSome_findings?_of_ended r exchange result) false

/-- A run that has its items and still cannot end waits for a fetch of rates. -/
theorem exists_waiting {r : Run} (hitems : r.hasItems = true) (h : r.findings? = none) :
    ∃ exchange generation, r.interpretation = .waiting exchange generation := by
  unfold Run.findings? at h
  split at h
  next => exact nomatch h
  next => exact nomatch (if_pos hitems).symm.trans h
  next exchange generation hwaits => exact ⟨exchange, generation, hwaits⟩

/-- A run that still waits goes on as it is. -/
theorem proceed_of_none {r : Run} (h : r.findings? = none) (notify : Bool) :
    e.proceed r notify = (.running r, e) := by
  rw [proceed, settle?, Ground.conclude?, h]
  rfl

/-- A run that has broken off ends at once, with its items or without. -/
theorem proceed_of_broken {r : Run} (h : r.interpretation = .broken) (notify : Bool) :
    e.proceed r notify = (.broken, e) := by
  rw [proceed, settle?, Ground.conclude?, Run.findings?, h]
  rfl

/-- One further look decides how a run ends that has its items. -/
theorem finishWith_succ (hpending : e.pending = none) {r : Run} (hitems : r.hasItems = true)
    (hlooked : e.IsLooked r) (fuel : Nat) :
    (e.proceed r false).2.finishWith [(e.proceed r false).1] (fuel + 2) =
      (e.proceed r false).2.finishWith [(e.proceed r false).1] (fuel + 1) := by
  -- Two looks come to what one comes to: the run has ended before them, or ends at the first, or
  -- waits for ever.
  rcases hfindings : r.findings? with _ | findings
  · obtain ⟨exchange, generation, hwaits⟩ := exists_waiting hitems hfindings
    have hproceed : e.proceed r false = (.running r, e) := proceed_of_none hfindings false
    have hwake : r.wakeAt? e.sources e.now =
        some (max e.now ((e.sources.desk.dueAt? generation).getD e.now)) := by
      rw [Run.wakeAt?, hitems, hwaits]
      rfl
    rw [hproceed]
    dsimp only
    rcases hdue : e.sources.desk.dueAt? generation with _ | due
    · -- Nobody will end the fetch, and nothing comes of any look.
      have hlook : e.again (.running r) = (.running r, e) := by
        rw [again_of_isLooked hlooked, ← hproceed, ← hitems]
      rw [hdue, Option.getD_none, Nat.max_self] at hwake
      rw [finishWith_running hpending hwake, hlook]
    · rw [hdue, Option.getD_some] at hwake
      have hended : (again { e with now := max e.now due } (.running r)).1.isEnded = true :=
        again_isEnded_of_due hwaits hdue (Nat.le_max_right _ _)
      rw [finishWith_running hpending hwake, finishWith_running hpending hwake,
        finishWith_of_ended _ hended, finishWith_of_ended _ hended]
  · have hended := e.proceed_isEnded (by rw [hfindings]; rfl) false
    rw [finishWith_of_ended _ hended, finishWith_of_ended _ hended]

/-- **Items that come late** change nothing of how a search ends. -/
theorem finish_late (hpending : e.pending = none) {r : Run} (hlooked : e.IsLooked r) :
    (e.proceed r false).2.finish [(e.proceed r false).1] =
      (e.proceed { r with hasItems := true } false).2.finish
        [(e.proceed { r with hasItems := true } false).1] := by
  cases hitems : r.hasItems with
  | true => rw [← hitems]
  | false =>
    by_cases hbroken : r.interpretation = .broken
    · -- A run that has broken off does not wait for its items.
      rw [proceed_of_broken hbroken, proceed_of_broken (r := { r with hasItems := true }) hbroken]
    · have hnone := (e.proceed_pending { r with hasItems := true } false).trans hpending
      -- Without its items the run goes on, and has them at its next look, with the same answer.
      have hfindings : r.findings? = none := by
        unfold Run.findings?
        split
        next h => exact absurd h hbroken
        next => rw [hitems]; rfl
        next => rfl
      have hwake : r.wakeAt? e.sources e.now = some e.now := by
        rw [Run.wakeAt?, hitems]
        rfl
      have hagain : again { e with now := e.now } (.running r) =
          e.proceed { r with hasItems := true } false := again_of_isLooked hlooked
      unfold finish
      rw [proceed_of_none hfindings]
      dsimp only
      rw [pollUnlessEnded_of_none hpending, pollUnlessEnded_of_none hnone]
      show e.finishWith [.running r] (5 + 1) = finishWith _ _ (4 + 2)
      rw [finishWith_running hpending hwake, hagain]
      -- The late run has used up a look for its items and has five left where the other has six, of
      -- which the last changes nothing.
      exact (finishWith_succ (r := { r with hasItems := true }) hpending rfl hlooked 4).symm

end Engine

/-! ### Beginnings -/

namespace Run

variable {s : Sources} {query : String}

/-- A query that is not blank is given to its interpreter and to all providers. -/
theorem begin_eq (h : (Text.trimmed query).isEmpty = false) (s : Sources) (now ticket : Nat) :
    Run.begin s now ticket query =
      (⟨ticket, query, (Interpretation.begin s.settings s.desk now (Text.trimmed query)).1,
          s.discover.1, s.providers.isEmpty⟩,
        { s with
          desk := (Interpretation.begin s.settings s.desk now (Text.trimmed query)).2
          providers := s.discover.2.providers }) := by
  have hitems : s.discover.2.providers.isEmpty = s.providers.isEmpty := by
    rw [Bool.eq_iff_iff, List.isEmpty_iff_length_eq_zero, List.isEmpty_iff_length_eq_zero]
    exact iff_of_eq (congrArg (· = 0) (Sources.length_discoverAll s.world s.providers))
  rw [← hitems, Run.begin, h, if_neg Bool.false_ne_true]
  rcases Interpretation.begin s.settings s.desk now (Text.trimmed query) with ⟨i, desk⟩
  rfl

/-- A blank query is given to nobody. -/
theorem begin_blank (h : (Text.trimmed query).isEmpty = true) (s : Sources) (now ticket : Nat) :
    Run.begin s now ticket query = (⟨ticket, query, .answered {}, [], true⟩, s) := by
  rw [Run.begin, h]
  rfl

/-- Without the providers that fail a run begins as it does with them, but it may have its items at
once. -/
theorem begin_withoutFailing (s : Sources) (now ticket : Nat) (query : String) :
    ∃ hasItems providers, Run.begin s.withoutFailing now ticket query =
      ({ (Run.begin s now ticket query).1 with hasItems },
        (Run.begin s now ticket query).2.withProviders providers) := by
  cases hblank : (Text.trimmed query).isEmpty with
  | true =>
    rw [begin_blank hblank, begin_blank hblank]
    exact ⟨true, _, rfl⟩
  | false =>
    have hsame : Interpretation.begin s.withoutFailing.settings s.withoutFailing.desk now
        (Text.trimmed query) = Interpretation.begin s.settings s.desk now (Text.trimmed query) := rfl
    rw [begin_eq hblank, begin_eq hblank, Sources.discover_withoutFailing, hsame]
    -- The interpreter sees no provider, and the items are the same; only whether there are
    -- providers to wait for may differ.
    rcases Interpretation.begin s.settings s.desk now (Text.trimmed query) with ⟨i, desk⟩
    exact ⟨_, _, rfl⟩

/-- A second look at the moment at which a run begins finds nothing new. -/
theorem begin_isLooked (s : Sources) (now ticket : Nat) (query : String) :
    (Run.begin s now ticket query).1.interpretation.again (Run.begin s now ticket query).2.settings
        (Run.begin s now ticket query).2.desk now =
      ((Run.begin s now ticket query).1.interpretation, (Run.begin s now ticket query).2.desk) := by
  cases hblank : (Text.trimmed query).isEmpty with
  | true =>
    rw [begin_blank hblank]
    rfl
  | false =>
    have hagain := Interpretation.begin_again s.settings s.desk now (Text.trimmed query)
    rw [begin_eq hblank]
    rcases hbegin : Interpretation.begin s.settings s.desk now (Text.trimmed query) with ⟨i, desk⟩
    rw [hbegin] at hagain
    exact hagain

end Run

namespace Engine

/-- The engine without the providers that fail. -/
def withoutFailing (e : Engine) : Engine :=
  { e with sources := e.sources.withoutFailing }

/-- A search that is begun and goes on to its end. -/
def searched (e : Engine) (query : String) : List Search × Engine :=
  (e.search query).2.finish [(e.search query).1]

/-- **A provider that fails is as good as absent.** A search comes to the same end without the
providers that fail, and the engines differ in their providers only. -/
theorem searched_withoutFailing (e : Engine) (query : String) :
    ∃ providers, e.withoutFailing.searched query =
      ((e.searched query).1, (e.searched query).2.withProviders providers) := by
  obtain ⟨hasItems, providers, hother⟩ :=
    Run.begin_withoutFailing e.sources e.now (e.board.latest + 1) query
  have hbegun := Run.begin_isLooked e.sources e.now (e.board.latest + 1) query
  rcases hbegin : Run.begin e.sources e.now (e.board.latest + 1) query with ⟨run, sources⟩
  rw [hbegin] at hother hbegun
  have hwithout : e.withoutFailing.search query =
      ((e.asked sources).withProviders providers).proceed { run with hasItems } false :=
    search_eq hother
  have hnone (r : Run) : ((e.asked sources).proceed r false).2.pending = none :=
    (e.asked sources).proceed_pending r false
  have hlooked : (e.asked sources).IsLooked run := hbegun
  have hlooked' : (e.asked sources).IsLooked { run with hasItems } := hbegun
  refine ⟨providers, ?_⟩
  unfold searched
  rw [search_eq hbegin, hwithout, proceed_withProviders]
  dsimp only
  -- Both runs come to what a run comes to that has its items from the beginning.
  rw [finish_withProviders (hnone _), finish_late rfl hlooked', finish_late rfl hlooked]

end Engine

end Launcher
