import Launcher.Proofs.Search.Frame
import Launcher.Proofs.Search.Settling
import Launcher.Proofs.Text.Pieces

namespace Launcher

/-!
# Where results come from

A result that was built from a command is executed, and entered with tab, by means of that command.
So the command on it must be one that is enabled, and the result must be what this command came to
for the query of the outcome. The results of all other streams must name no command.

* `Hit.IsBuilt`, `isBuilt_of_mem_streams` — only the stream of commands has results that were built
  from one.
* `Outcome.IsFound` — the results of an outcome are proper, and each one that was built from a
  command is what that command came to for the query.
* `Run.isFound_outcome` — so it is for the outcome of a run.
* `Engine.ShowsFound` — so it is for the outcome that is shown, and will be for what is under way.
* `Engine.ShowsFound.keptWith`, `Engine.ShowsFound.search`, `Engine.ShowsFound.submit` — searches
  and submissions, and whatever comes of them, keep that.
-/

/-! ### Results that were built from a command -/

/-- A result that was built from a command names it. -/
theorem command_of_matchCommand? {settings : Settings} {query : String} {command : Command}
    {hit : Hit} (h : matchCommand? settings query command = some hit) :
    hit.command = some command := by
  unfold matchCommand? at h
  dsimp only at h
  split at h
  next =>
    obtain rfl := Option.some.inj h
    rfl
  next =>
    obtain ⟨found, -, rfl⟩ := Option.map_eq_some_iff.mp h
    rfl

/-- Results of built-in commands name none. -/
theorem command_of_mem_matchBuiltIns {query : String} {commands : List BuiltIn} {hit : Hit}
    (h : hit ∈ matchBuiltIns query commands) : hit.command = none := by
  obtain ⟨b, -, hb⟩ := List.mem_filterMap.mp h
  obtain ⟨found, -, rfl⟩ := Option.map_eq_some_iff.mp hb
  rfl

/-- Results of items name none. -/
theorem command_of_mem_matchItems {query : String} {items : List Item} {hit : Hit}
    (h : hit ∈ matchItems query items) : hit.command = none := by
  obtain ⟨item, -, hitem⟩ := List.mem_filterMap.mp h
  obtain ⟨found, -, rfl⟩ := Option.map_eq_some_iff.mp hitem
  rfl

/-- Results of copied texts name none. -/
theorem command_of_mem_clipboardHits {s : Sources} {query : String} {time : Int} {hit : Hit}
    (h : hit ∈ s.clipboardHits query time) : hit.command = none := by
  unfold Sources.clipboardHits at h
  split at h
  next =>
    split at h
    next =>
      obtain ⟨entry, -, hentry⟩ := List.mem_filterMap.mp h
      obtain ⟨found, -, rfl⟩ := Option.map_eq_some_iff.mp hentry
      rfl
    next => exact nomatch h
  next => exact nomatch h

/-- The result is what an enabled command came to for a query. -/
structure Hit.IsBuilt (settings : Settings) (query : String) (command : Command) (hit : Hit) :
    Prop where
  enabled : command ∈ settings.enabledCommands
  matched : matchCommand? settings (Text.trimmed query) command = some hit

/-- Each result of the stream of commands was built from an enabled one. -/
theorem isBuilt_of_mem_matchCommands {settings : Settings} {query : String} {hit : Hit}
    (h : hit ∈ matchCommands settings query) : ∃ command, hit.IsBuilt settings query command := by
  unfold matchCommands at h
  dsimp only at h
  split at h
  next => exact nomatch h
  next =>
    obtain ⟨command, hcommand, hmatched⟩ := List.mem_filterMap.mp h
    exact ⟨command, hcommand, hmatched⟩

/-- Among the candidates for a query, only results of commands were built from one. -/
theorem isBuilt_of_mem_streams {s : Sources} {query : String} {hits : List Hit}
    {items : List Item} {time : Int} {hit : Hit} {command : Command} (hhits : Interpreted hits)
    (h : hit ∈ (s.streams query hits items time).flatten) (hcommand : hit.command = some command) :
    hit.IsBuilt s.settings query command := by
  have hne : hit.command ≠ none := by simp [hcommand]
  simp only [Sources.streams, List.flatten_cons, List.flatten_nil, List.append_nil,
    List.mem_append] at h
  -- Of the five streams, only that of the commands has results that were built from one.
  obtain h | h | h | h | h := h
  · exact absurd (hhits hit h).command hne
  · obtain ⟨command', hbuilt⟩ := isBuilt_of_mem_matchCommands h
    obtain rfl : command' = command :=
      Option.some.inj ((command_of_matchCommand? hbuilt.matched).symm.trans hcommand)
    exact hbuilt
  · exact absurd (command_of_mem_matchBuiltIns h) hne
  · exact absurd (command_of_mem_matchItems h) hne
  · exact absurd (command_of_mem_clipboardHits h) hne

/-! ### Outcomes -/

/-- The results of an outcome are proper, and each one that was built from a command is what that
command came to for the query. -/
structure Outcome.IsFound (settings : Settings) (o : Outcome) : Prop where
  isProper : o.ranking.IsProper
  built : ∀ hit ∈ o.ranking.displayed, ∀ command, hit.command = some command →
    hit.IsBuilt settings o.query command

/-- The outcome of a run is found, if its interpreter made results like those that interpreters
make. -/
theorem Run.isFound_outcome (s : Sources) (time : Int) (r : Run) {answer : Answer}
    (h : Interpreted answer.hits) : (r.outcome s time answer).IsFound s.settings where
  isProper := r.outcome_ranking s time answer ▸ isProper_ranking s time r h.known
  built := by
    rw [r.outcome_ranking s time answer]
    show ∀ hit ∈ (r.ranking s time answer).displayed, ∀ command, hit.command = some command →
      hit.IsBuilt s.settings r.query command
    unfold Run.ranking
    split
    next => simp [Ranking.displayed]
    next =>
      intro hit hhit command hcommand
      have hgrouped : (s.ranking r.trimmedQuery answer.hits r.items time).IsGrouped :=
        Ranking.isGrouped_ofStreams _ _
      have hmem := mem_of_mem_rank (hgrouped.displayed_perm.mem_iff.mp hhit)
      obtain ⟨henabled, hmatched⟩ := isBuilt_of_mem_streams h hmem hcommand
      rw [Run.trimmedQuery, Text.trimmed_trimmed] at hmatched
      exact ⟨henabled, hmatched⟩

/-! ### Searches and submissions -/

/-- What the search goes on with is interpreted as interpreters do. -/
def Search.IsInterpreted (search : Search) : Prop :=
  ∀ run, search = .running run → run.interpretation.IsInterpreted

namespace Search

/-- A search goes on with its run. -/
theorem isInterpreted_running {r : Run} (h : r.interpretation.IsInterpreted) :
    (running r).IsInterpreted := by
  rintro _ ⟨⟩
  exact h

/-- A search that has ended goes on with nothing. -/
theorem isInterpreted_of_isEnded {search : Search} (h : search.isEnded = true) :
    search.IsInterpreted := by
  rintro run rfl
  simp [isEnded] at h

end Search

namespace Engine

/-- What is shown was found under some settings, and so will be what comes of the pending
submission. -/
structure ShowsFound (settings : Settings) (e : Engine) : Prop where
  settings_eq : e.sources.settings = settings
  shown : ∀ o, e.board.shown = some o → o.IsFound settings
  pending : ∀ run, e.pending = some (.running run) → run.interpretation.IsInterpreted

namespace ShowsFound

variable {settings : Settings} {e : Engine} {r : Run}

/-- The outcome of a run that is published is the one that was made of its findings. -/
theorem proceed (h : e.ShowsFound settings) (hr : r.interpretation.IsInterpreted)
    (notify : Bool) :
    (e.proceed r notify).2.ShowsFound settings ∧ (e.proceed r notify).1.IsInterpreted := by
  unfold Engine.proceed settle?
  rcases e.conclude?_cases r with
    ⟨-, hwaits⟩ | ⟨-, hbroken⟩ | ⟨-, -, -, hpassed⟩ | ⟨answer, hanswer, hcurrent, hmade⟩
  · rw [hwaits]
    exact ⟨h, Search.isInterpreted_running hr⟩
  · rw [hbroken]
    exact ⟨h, Search.isInterpreted_of_isEnded rfl⟩
  · rw [hpassed]
    exact ⟨h, Search.isInterpreted_of_isEnded rfl⟩
  · rw [hmade, Option.map_some, Ground.carryOut, Ground.deliver_of_current hcurrent]
    have hfound := r.isFound_outcome e.sources e.wallClock
      (hr answer (Run.interpretation_of_complete hanswer))
    refine ⟨⟨h.settings_eq, ?_, h.pending⟩, Search.isInterpreted_of_isEnded rfl⟩
    rintro _ ⟨⟩
    exact h.settings_eq ▸ hfound

/-- The run of a submission stays pending or is dropped, and what it publishes is found. -/
theorem proceedPending (h : e.ShowsFound settings) (hr : r.interpretation.IsInterpreted) :
    (e.proceedPending r).ShowsFound settings := by
  obtain ⟨hengine, hsearch⟩ := h.proceed hr true
  unfold Engine.proceedPending
  split
  next run e' heq =>
    rw [heq] at hengine hsearch
    refine ⟨hengine.settings_eq, hengine.shown, ?_⟩
    rintro _ ⟨⟩
    exact hsearch run rfl
  next search e' _ heq =>
    rw [heq] at hengine
    exact ⟨hengine.settings_eq, hengine.shown, nofun⟩

/-- Sources with the same settings. -/
theorem withSources (h : e.ShowsFound settings) {sources : Sources}
    (hsettings : sources.settings = e.sources.settings) :
    ({ e with sources } : Engine).ShowsFound settings :=
  ⟨hsettings.trans h.settings_eq, h.shown, h.pending⟩

/-- A further look at a search. -/
theorem again (h : e.ShowsFound settings) {search : Search} (hsearch : search.IsInterpreted) :
    (e.again search).2.ShowsFound settings ∧ (e.again search).1.IsInterpreted := by
  cases search with
  | running run =>
    have hrun := Run.isInterpreted_again (hsearch run rfl) e.sources e.now
    rcases hagain : run.again e.sources e.now with ⟨run', sources⟩
    rw [hagain] at hrun
    have hsettings : sources.settings = e.sources.settings :=
      (congrArg (·.2.settings) hagain).symm
    rw [again_eq hagain]
    exact (h.withSources hsettings).proceed hrun false
  | published | superseded | broken => exact ⟨h, hsearch⟩

/-- A look at what is pending begins its run or looks at it again. -/
theorem poll (h : e.ShowsFound settings) : e.poll.ShowsFound settings := by
  rcases e.poll_cases with hpoll | hpoll |
    ⟨ticket, query, due, run, sources, -, hbegin, hpoll⟩ |
    ⟨run, run', sources, hpending, hagain, hpoll⟩ <;> rw [hpoll]
  · exact h
  · exact ⟨h.settings_eq, h.shown, nofun⟩
  · have hsettings := begin_settings e.sources e.now ticket query
    have hrun := Run.isInterpreted_begin e.sources e.now ticket query
    rw [hbegin] at hsettings hrun
    exact (h.withSources hsettings).proceedPending hrun
  · have hsettings : sources.settings = e.sources.settings :=
      (congrArg (·.2.settings) hagain).symm
    have hrun := Run.isInterpreted_again (h.pending run hpending) e.sources e.now
    rw [hagain] at hrun
    exact (h.withSources hsettings).proceedPending hrun

/-- So it is whatever happens while one waits for searches. -/
theorem keptWith (settings : Settings) : KeptWith (ShowsFound settings) Search.IsInterpreted where
  wait _ _ h := ⟨h.settings_eq, h.shown, h.pending⟩
  again _ _ h hsearch := h.again hsearch
  poll _ h := h.poll

/-- A search drops what was pending, and what it publishes is found. -/
theorem search (h : e.ShowsFound settings) (query : String) :
    (e.search query).2.ShowsFound settings ∧ (e.search query).1.IsInterpreted := by
  have hsettings := begin_settings e.sources e.now (e.board.latest + 1) query
  have hrun := Run.isInterpreted_begin e.sources e.now (e.board.latest + 1) query
  rcases hbegin : Run.begin e.sources e.now (e.board.latest + 1) query with ⟨run, sources⟩
  rw [hbegin] at hsettings hrun
  rw [search_eq hbegin]
  -- The search drops what was pending.
  have hasked : (e.asked sources).ShowsFound settings :=
    ⟨hsettings.trans h.settings_eq, h.shown, nofun⟩
  exact hasked.proceed hrun false

/-- A submission has no run yet. -/
theorem submit (h : e.ShowsFound settings) (query : String) :
    (e.submit query).2.ShowsFound settings :=
  ⟨h.settings_eq, h.shown, nofun⟩

end ShowsFound

end Engine

end Launcher
