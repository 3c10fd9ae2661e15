import Launcher.Proofs.Intent
import Launcher.Proofs.Search.Providers
import Launcher.Proofs.Search.Settling

namespace Launcher.Engine

/-!
# Failures leave the other results alone

A search asks several sources: the interpreter of its query, the commands, the built-in actions, the
items of all providers and the clipboard. When one of them fails, the results of the others should
be what they are without it.

* `Engine.rankingAlone` — the results of a search without those of its interpreter.
* `Engine.Told` — the outcome of a search tells an answer of its interpreter, and everything else
  that was found when the search began.
* `Engine.Follows`, `Engine.keptWith_follows` — what holds of a search at each look until it has
  such an outcome: its run keeps the query and the items with which it began, and the answer of its
  interpreter stems from what the query means.
* `Engine.searched_told` — every outcome of a search tells an answer.
* `Engine.searched_of_plan` — a search that needs no rates has an outcome.
* `Engine.failures_leave_alone` — a search ends as it does without the providers that fail, and has
  the other results alone if its interpreter fails.

For the first half of the theorem see `Engine.searched_withoutFailing`. The second half rests on two
facts about answers: one that is a failure has no results, and one with a notice is a failure.
-/

variable {e e' : Engine} {query : String}

/-- The results of a search without those of its interpreter. -/
def rankingAlone (e : Engine) (query : String) : Ranking :=
  let q := Text.trimmed query
  .ofStreams
    [matchCommands e.sources.settings q, matchBuiltIns q BuiltIn.all,
      matchItems q e.sources.discover.1, e.sources.clipboardHits q e.wallClock]
    e.sources.settings.maxResults.toNat

/-- What a query means. -/
def intent (query : String) : Intent :=
  Intent.classify (Text.trimmed query).toList

/-- An outcome tells an answer to which the interpreter of a query can come, and what is found for
the query besides. -/
structure Told (e : Engine) (query : String) (answer : Answer) (o : Outcome) : Prop where
  stems : Interpretation.StemsFrom ((intent query).plan e.sources.settings) (.answered answer)
  notices : o.notices = answer.notices
  ranking : o.ranking =
    e.sources.ranking (Text.trimmed query) answer.hits e.sources.discover.1 e.wallClock

/-- An answer without results leaves the ranking of the others. -/
theorem Told.ranking_eq {answer : Answer} {o : Outcome} (h : e.Told query answer o)
    (hhits : answer.hits = []) : o.ranking = e.rankingAlone query := by
  have hnil (streams : List (List Hit)) (limit : Nat) :
      Ranking.ofStreams ([] :: streams) limit = .ofStreams streams limit := rfl
  rw [h.ranking, hhits, Sources.ranking, Sources.streams, hnil, rankingAlone]

/-- What an engine keeps while a search goes on. -/
structure Stays (e e' : Engine) : Prop where
  pending : e'.pending = none
  wallClock : e'.wallClock = e.wallClock
  settings : e'.sources.settings = e.sources.settings
  clipboard : e'.sources.clipboard = e.sources.clipboard

/-- The run of a query, with the items that were found when it began. -/
structure IsRunOf (e : Engine) (query : String) (r : Run) : Prop where
  query_eq : r.query = query
  items_eq : r.items = e.sources.discover.1
  stems : Interpretation.StemsFrom ((intent query).plan e.sources.settings) r.interpretation

/-- What a search goes on with, and what it publishes. -/
structure Follows (e : Engine) (query : String) (search : Search) : Prop where
  running : ∀ r, search = .running r → e.IsRunOf query r
  published : ∀ o, search = .published o → ∃ answer, e.Told query answer o

/-- Results depend on the settings and the clipboard of the sources only, once the items are
known. -/
theorem ranking_congr {s s' : Sources} (hsettings : s'.settings = s.settings)
    (hclipboard : s'.clipboard = s.clipboard) {q : String} {hits : List Hit} {items : List Item}
    {time : Int} : s'.ranking q hits items time = s.ranking q hits items time := by
  unfold Sources.ranking Sources.streams Sources.clipboardHits
  rw [hsettings, hclipboard]

/-- The outcome of a run with its answer tells that answer. -/
theorem Stays.told (h : e.Stays e') {r : Run} (hr : e.IsRunOf query r)
    (hquery : (Text.trimmed query).isEmpty = false) {answer : Answer}
    (hanswer : r.interpretation = .answered answer) :
    e.Told query answer (r.outcome e'.sources e'.wallClock answer) where
  stems := hanswer ▸ hr.stems
  notices := rfl
  ranking := by
    have htrimmed : r.trimmedQuery = Text.trimmed query := by rw [Run.trimmedQuery, hr.query_eq]
    rw [Run.outcome_ranking, Run.ranking, htrimmed, hquery, if_neg Bool.false_ne_true, hr.items_eq,
      h.wallClock]
    exact ranking_congr h.settings h.clipboard

/-- Going on with a run of the query keeps what has to stay, and if it publishes an outcome, this
tells an answer. -/
theorem Stays.proceed (h : e.Stays e') {r : Run} (hr : e.IsRunOf query r)
    (hquery : (Text.trimmed query).isEmpty = false) (notify : Bool) :
    e.Stays (e'.proceed r notify).2 ∧ e.Follows query (e'.proceed r notify).1 := by
  unfold Engine.proceed settle?
  rcases e'.conclude?_cases r with
    ⟨-, hc⟩ | ⟨-, hc⟩ | ⟨-, -, -, hc⟩ | ⟨answer, hfindings, hcurrent, hc⟩ <;> rw [hc]
  · refine ⟨h, fun _ hrun => Search.running.inj hrun ▸ hr, ?_⟩
    rintro _ ⟨⟩
  · constructor
    · exact h
    · constructor <;> rintro _ ⟨⟩
  · constructor
    · exact h
    · constructor <;> rintro _ ⟨⟩
  · rw [Option.map_some, Ground.carryOut, Ground.deliver_of_current hcurrent]
    refine ⟨⟨h.pending, h.wallClock, h.settings, h.clipboard⟩, ?_, ?_⟩
    · rintro _ ⟨⟩
    · rintro _ ⟨⟩
      exact ⟨answer, h.told hr hquery (Run.interpretation_of_complete hfindings)⟩

/-- So does everything else that may happen until the search has ended: time that passes, further
looks, and a look at what is pending, which is nothing. -/
theorem keptWith_follows (e : Engine) (hquery : (Text.trimmed query).isEmpty = false) :
    KeptWith e.Stays (e.Follows query) where
  wait _ _ h := ⟨h.pending, h.wallClock, h.settings, h.clipboard⟩
  again e' search h hsearch := by
    cases search with
    | running run =>
      obtain ⟨hrunQuery, hitems, hstems⟩ := hsearch.running run rfl
      rcases hagain : run.again e'.sources e'.now with ⟨run', sources⟩
      have hrun : e.IsRunOf query run' := by
        obtain rfl : (run.again e'.sources e'.now).1 = run' := by rw [hagain]
        exact ⟨hrunQuery, hitems, hstems.again _ _ _⟩
      have hstays : e.Stays { e' with sources } := by
        obtain rfl : (run.again e'.sources e'.now).2 = sources := by rw [hagain]
        exact ⟨h.pending, h.wallClock, h.settings, h.clipboard⟩
      rw [again_eq hagain]
      exact hstays.proceed hrun hquery false
    | published | superseded | broken => exact ⟨h, hsearch⟩
  poll e' h := by
    rw [poll_none h.pending]
    exact h

/-- The run with which a search begins is one of its query. -/
theorem search_follows (e : Engine) (hquery : (Text.trimmed query).isEmpty = false) :
    e.Stays (e.search query).2 ∧ e.Follows query (e.search query).1 := by
  have hbegin := Run.begin_eq hquery e.sources e.now (e.board.latest + 1)
  have hstems :=
    Interpretation.stemsFrom_begin e.sources.settings e.sources.desk e.now (Text.trimmed query)
  generalize Interpretation.begin e.sources.settings e.sources.desk e.now (Text.trimmed query) =
    begun at hbegin hstems
  rw [search_eq hbegin]
  -- The query drops what was pending and takes its items from all providers; nothing else that
  -- counts here is touched.
  have hrun : e.IsRunOf query
      ⟨e.board.latest + 1, query, begun.1, e.sources.discover.1, e.sources.providers.isEmpty⟩ :=
    ⟨rfl, rfl, hstems⟩
  have hstays : e.Stays (e.asked
      { e.sources with desk := begun.2, providers := e.sources.discover.2.providers }) :=
    ⟨rfl, rfl, rfl, rfl⟩
  exact hstays.proceed hrun hquery false

/-- Every outcome of a search tells an answer of the interpreter, and what is found besides. -/
theorem searched_told (hquery : (Text.trimmed query).isEmpty = false) {o : Outcome}
    (h : (e.searched query).1 = [.published o]) : ∃ answer, e.Told query answer o := by
  obtain ⟨hstays, hfollows⟩ := e.search_follows hquery
  have hbegun : ∀ search ∈ [(e.search query).1], e.Follows query search :=
    List.forall_mem_singleton.mpr hfollows
  have hsearches : ∀ search ∈ (e.searched query).1, e.Follows query search :=
    ((e.keptWith_follows hquery).finish hstays hbegun).2
  rw [h] at hsearches
  exact (hsearches _ (List.mem_singleton_self _)).published o rfl

/-! ### Searches without rates -/

/-- A run that has its answer publishes its outcome if its ticket is the last one. -/
theorem proceed_complete {r : Run} {answer : Answer} (h : r.findings? = some (.complete answer))
    (hcurrent : e.board.latest = r.ticket) (notify : Bool) :
    (e.proceed r notify).1 = .published (r.outcome e.sources e.wallClock answer) := by
  have hticket : e.board.latest = (r.outcome e.sources e.wallClock answer).ticket := hcurrent
  rw [proceed, settle?, Ground.conclude?, h, Option.map_some]
  dsimp only
  rw [if_pos ((e.board.isCurrent_iff _).mpr hcurrent), Option.map_some, Ground.carryOut,
    Ground.deliver_of_current hticket]
  rfl

/-- **A search whose interpreter answers at once has an outcome.** -/
theorem searched_of_answered (e : Engine) (hquery : (Text.trimmed query).isEmpty = false)
    {answer : Answer} {desk : Currency.Desk}
    (h : Interpretation.begin e.sources.settings e.sources.desk e.now (Text.trimmed query) =
      (.answered answer, desk)) :
    ∃ o, (e.searched query).1 = [.published o] := by
  obtain ⟨r, sources, hbegin, hticket, hanswered⟩ : ∃ r sources,
      Run.begin e.sources e.now (e.board.latest + 1) query = (r, sources) ∧
        r.ticket = e.board.latest + 1 ∧ r.interpretation = .answered answer :=
    ⟨_, _, Run.begin_eq hquery e.sources e.now _, rfl, by rw [h]⟩
  have hlooked : (e.asked sources).IsLooked r := by
    rw [IsLooked, hanswered]
    rfl
  -- With its items the run has all that it waits for, so it ends when these arrive.
  have hcomplete : ({ r with hasItems := true } : Run).findings? = some (.complete answer) := by
    rw [Run.findings?, hanswered]
    rfl
  have hpublished := proceed_complete (e := e.asked sources) hcomplete hticket.symm false
  have hended :
      ((e.asked sources).proceed { r with hasItems := true } false).1.isEnded = true := by
    rw [hpublished]
    rfl
  have hsearched : (e.searched query).1 =
      [((e.asked sources).proceed { r with hasItems := true } false).1] := by
    rw [searched, search_eq hbegin, finish_late rfl hlooked, finish_of_ended _ hended]
  rw [hpublished] at hsearched
  exact ⟨_, hsearched⟩

/-- So a search that needs no rates has one: its interpreter answers without looking at the desk. -/
theorem searched_of_plan (e : Engine) (hquery : (Text.trimmed query).isEmpty = false)
    {answer : Answer} (h : (intent query).plan e.sources.settings = .answered answer) :
    ∃ o, (e.searched query).1 = [.published o] := by
  have hbegin : Interpretation.begin e.sources.settings e.sources.desk e.now (Text.trimmed query) =
      (.answered answer, e.sources.desk) := by
    rw [Interpretation.begin]
    split
    next answer' hanswer =>
      obtain rfl := Plan.answered.inj (hanswer.symm.trans h)
      rfl
    next exchange hexchange => exact nomatch hexchange.symm.trans h
  exact e.searched_of_answered hquery hbegin

/-! ### Main theorem -/

/-- The interpreter of a blank query has nothing to fail at: no tool, color, conversion or
calculation is read from it. -/
theorem trimmed_ne_blank_of_fails {settings : Settings} (h : (intent query).Fails settings) :
    (Text.trimmed query).isEmpty = false := by
  by_contra hblank
  have hempty : Text.trimmed query = "" := by simpa using hblank
  have htool : Tool.Call.parse? "".toList = none :=
    Option.isNone_iff_eq_none.mp (by decide +kernel)
  have hcolor : Color.looksLikeColor "".toList = false := by decide +kernel
  have hconversion : Conversion.parse? "".toList = none :=
    Option.isNone_iff_eq_none.mp (by decide +kernel)
  have hlooks : Arith.looksLikeExpression "".toList = false := by decide +kernel
  have hintent : intent query = .freeText (String.ofList (Text.trim "".toList)) := by
    rw [intent, hempty, Intent.classify, htool]
    simp only [hcolor, hconversion, hlooks, Bool.false_eq_true, if_false]
  rw [hintent] at h
  cases h

/-- **Failures leave the other results alone.** A search ends as it does without the providers that
fail, whatever providers there are. If its interpreter meets an error, the search has the results
that it has without an interpreter; the same holds if its outcome has a notice, and whenever its
interpreter has come to a failure. -/
theorem failures_leave_alone (e : Engine) (query : String) :
    (∃ providers, e.withoutFailing.searched query =
      ((e.searched query).1, (e.searched query).2.withProviders providers)) ∧
    ((intent query).Fails e.sources.settings →
      ∃ o, (e.searched query).1 = [.published o] ∧ o.notices = [] ∧
        o.ranking = e.rankingAlone query) ∧
    ∀ o, (e.searched query).1 = [.published o] → Text.trimmed query ≠ "" →
      ∃ answer, e.Told query answer o ∧
        (o.notices ≠ [] ∨ answer.IsFailure e.sources.settings (intent query) →
          o.ranking = e.rankingAlone query) := by
  refine ⟨e.searched_withoutFailing query, fun hfails => ?_, fun o ho hne => ?_⟩
  · -- An interpreter that fails needs no rates, so there is an outcome, and its answer has no
    -- results.
    have hquery := trimmed_ne_blank_of_fails hfails
    obtain ⟨o, ho⟩ := e.searched_of_plan hquery hfails.plan_eq
    obtain ⟨answer, htold⟩ := searched_told hquery ho
    have hstems := htold.stems
    rw [hfails.plan_eq] at hstems
    obtain rfl := hstems.answer_eq
    exact ⟨o, ho, htold.notices, htold.ranking_eq rfl⟩
  · have hquery : (Text.trimmed query).isEmpty = false := by simpa using hne
    obtain ⟨answer, htold⟩ := searched_told hquery ho
    refine ⟨answer, htold, fun hfails => ?_⟩
    have hfailure : answer.IsFailure e.sources.settings (intent query) := by
      obtain hnotices | hfailure := hfails
      · exact htold.stems.isFailure (htold.notices ▸ hnotices)
      · exact hfailure
    exact htold.ranking_eq (htold.stems.hits_eq hfailure)

/-- An engine with a provider that fails, and one that does not. -/
def halfBlind : Engine where
  sources :=
    { settings := .defaults {}
      desk := { script := ⟨[]⟩ }
      providers := [.plain (.script "notes" [.error "out of reach"]), .plain .sampleFiles] }
  wallClock := 0

/-- A number with a point too many. -/
theorem failures_leave_alone_points :
    (intent "1..2").Fails halfBlind.sources.settings ∧
      ∃ o answer, (halfBlind.searched "1..2").1 = [.published o] ∧
        (halfBlind.withoutFailing.searched "1..2").1 = [.published o] ∧
        halfBlind.Told "1..2" answer o ∧ o.ranking = halfBlind.rankingAlone "1..2" := by
  have hpoints : Decimal.readUnsigned? false ['1', '.', '.', '2'] = none := by decide +kernel
  have hdigits : ['1', '2', '.'].all (fun c => Arith.isNumeric c && !Text.isBlank c) = true := by
    decide
  simp only [List.all_cons, List.all_nil, Bool.and_eq_true, Bool.not_eq_true'] at hdigits
  -- The second point is no part of a number, so the digits before it are no number either.
  have herror : Arith.evaluate "1..2".toList = .error (.malformed 0 (.invalidNumber "1..2")) := by
    simp [Arith.evaluate, Arith.parse, Arith.tokenize, Arith.tokenizeFrom, hdigits, hpoints, bind,
      Except.bind]
  have hlooks : Arith.looksLikeExpression (Text.trimmed "1..2").toList = true := by decide +kernel
  have htrimmed : String.ofList (Text.trim (Text.trimmed "1..2").toList) = "1..2" := by
    decide +kernel
  have hread : Interpreter.arithmetic.read? (Text.trimmed "1..2").toList =
      some (.arithmetic "1..2") := by
    rw [Interpreter.read?, if_pos hlooks, htrimmed]
  have hintent : intent "1..2" = .arithmetic "1..2" := Intent.classify_of_read? hread
  have hfails : (intent "1..2").Fails halfBlind.sources.settings := by
    rw [hintent]
    exact .arithmetic herror
  obtain ⟨⟨providers, hwithout⟩, hinterpreter, houtcome⟩ := failures_leave_alone halfBlind "1..2"
  obtain ⟨o, ho, -, hranking⟩ := hinterpreter hfails
  obtain ⟨answer, htold, halone⟩ := houtcome o ho (by decide)
  exact ⟨hfails, o, answer, ho, by rw [hwithout, ho], htold,
    halone (.inr (.interpreter answer hfails))⟩

end Launcher.Engine
