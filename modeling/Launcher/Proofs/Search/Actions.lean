import Launcher.Proofs.Search.Grouping
import Launcher.Search.Run

namespace Launcher

/-!
# Actions of results

A result carries the action that is taken when it is executed. Most actions are handed to the sink;
those of built-in commands are carried out by the service itself, which looks the command up by its
identity. For this look-up never to fail, every result that a search shows must carry either an
action for the sink or the identity of a built-in command that there is.

* `Action.IsKnown`, `Known` — the action is carried out by the sink, or by a built-in command that
  there is; so it is for all results of a list.
* `Hit.IsInterpreted`, `interpreted_plan`, `interpreted_ofRates` — the results that interpreters
  make: none was built from a command, and none has the action of a built-in one.
* `known_streams` — the actions of all candidates are known, stream by stream.
* `isProper_ranking` — the results of a search are grouped, and all their actions are known.
-/

/-- The action is not one of a built-in command, or one of a built-in command that there is. -/
def Action.IsKnown (action : Action) : Prop :=
  ∀ id, action = .builtIn id → ∃ b, BuiltIn.ofId? id = some b

/-- The actions of all results are known. -/
def Known (hits : List Hit) : Prop :=
  ∀ hit ∈ hits, hit.action.IsKnown

theorem known_nil : Known [] := List.forall_mem_nil _

/-- The results of two streams together. -/
theorem Known.append {hits hits' : List Hit} (h : Known hits) (h' : Known hits') :
    Known (hits ++ hits') :=
  List.forall_mem_append.mpr ⟨h, h'⟩

/-- Results that are made from elements of a list, each with a known action. -/
theorem known_filterMap {α : Type} {f : α → Option Hit} {xs : List α}
    (h : ∀ x hit, f x = some hit → hit.action.IsKnown) : Known (xs.filterMap f) := by
  intro hit hhit
  obtain ⟨x, -, hx⟩ := List.mem_filterMap.mp hhit
  exact h x hit hx

/-- A built-in command is found by its own identity. -/
theorem BuiltIn.ofId?_id (b : BuiltIn) : BuiltIn.ofId? b.id = some b := by
  cases b <;> decide

/-! ### Interpreters -/

/-- The result is like those that interpreters make: it was not built from a command, and its action
is not one of a built-in command. -/
structure Hit.IsInterpreted (hit : Hit) : Prop where
  command : hit.command = none
  action : ∀ id, hit.action ≠ .builtIn id

/-- All results are like those that interpreters make. -/
def Interpreted (hits : List Hit) : Prop :=
  ∀ hit ∈ hits, hit.IsInterpreted

theorem interpreted_nil : Interpreted [] := List.forall_mem_nil _

theorem interpreted_cons {hit : Hit} {hits : List Hit} (h : hit.IsInterpreted)
    (hhits : Interpreted hits) : Interpreted (hit :: hits) :=
  List.forall_mem_cons.mpr ⟨h, hhits⟩

theorem interpreted_singleton {hit : Hit} (h : hit.IsInterpreted) : Interpreted [hit] :=
  interpreted_cons h interpreted_nil

/-- What interpreters make has no action of a built-in command, so its actions are known. -/
theorem Interpreted.known {hits : List Hit} (h : Interpreted hits) : Known hits :=
  fun hit hhit id hid => absurd hid ((h hit hhit).action id)

namespace Interpret

variable (settings : Settings)

/-- What an interpreter makes a result of is not the action of a built-in command. -/
theorem isInterpreted_hit {title subtitle group : String} {kind : HitKind} {action : Action}
    (h : ∀ id, action ≠ .builtIn id) : (hit title subtitle group kind action).IsInterpreted :=
  ⟨rfl, h⟩

/-- A long text is shown as a code by the sink. -/
theorem interpreted_qrHit? (text source : String) :
    Interpreted (qrHit? settings text source).toList := by
  unfold qrHit?
  dsimp only
  split
  next => exact interpreted_nil
  next => exact interpreted_singleton (isInterpreted_hit nofun)

/-- The output of a text tool is copied, and may be shown as a code too. -/
theorem interpreted_textToolHits (call : Tool.Call) : Interpreted (textToolHits settings call) := by
  unfold textToolHits
  split
  next => exact interpreted_cons (isInterpreted_hit nofun) (interpreted_qrHit? settings _ _)
  next => exact interpreted_nil

/-- A web search is opened by the sink. -/
theorem interpreted_webHits (argument : String) : Interpreted (webHits settings argument) := by
  unfold webHits
  split
  next => exact interpreted_singleton (isInterpreted_hit nofun)
  next => exact interpreted_nil

/-- So it is for the results of every tool. -/
theorem interpreted_toolHits (call : Tool.Call) : Interpreted (toolHits settings call) := by
  unfold toolHits
  split
  next => exact interpreted_webHits settings _
  next => exact interpreted_singleton (isInterpreted_hit nofun)
  next => exact interpreted_textToolHits settings call

/-- The notations of a color are copied. -/
theorem interpreted_colorHits (text : String) : Interpreted (colorHits text) := by
  unfold colorHits
  split
  next => exact List.forall_mem_map.mpr fun _ _ => isInterpreted_hit nofun
  next => exact interpreted_nil

/-- The value of an expression is copied. -/
theorem interpreted_arithmeticHits (text : String) : Interpreted (arithmeticHits text) := by
  unfold arithmeticHits
  split
  next => exact interpreted_singleton (isInterpreted_hit nofun)
  next => exact interpreted_nil

/-- The converted amount is copied. -/
theorem interpreted_measureHits (amount : Float) (source target : Measure) :
    Interpreted (measureHits amount source target) := by
  unfold measureHits
  split
  next => exact interpreted_singleton (isInterpreted_hit nofun)
  next => exact interpreted_nil

/-- A conversion that needs no rates has the result of its units, or none. -/
theorem interpreted_conversionPlan {c : Conversion} {answer : Answer}
    (h : conversionPlan c = .answered answer) : Interpreted answer.hits := by
  unfold conversionPlan at h
  split at h
  next =>
    obtain rfl := Plan.answered.inj h
    exact interpreted_measureHits _ _ _
  next =>
    split at h
    next => exact nomatch h
    next =>
      obtain rfl := Plan.answered.inj h
      exact interpreted_nil

end Interpret

open Interpret in

/-- Every interpreter that answers without rates makes such results. -/
theorem interpreted_plan {settings : Settings} {intent : Intent} {answer : Answer}
    (h : intent.plan settings = .answered answer) : Interpreted answer.hits := by
  unfold Intent.plan at h
  cases intent with
  | tool call =>
    obtain rfl := Plan.answered.inj h
    exact interpreted_toolHits settings call
  | color text =>
    obtain rfl := Plan.answered.inj h
    exact interpreted_colorHits text
  | conversion c => exact interpreted_conversionPlan h
  | arithmetic text =>
    obtain rfl := Plan.answered.inj h
    exact interpreted_arithmeticHits text
  | freeText text =>
    obtain rfl := Plan.answered.inj h
    exact interpreted_qrHit? settings text _

/-- So does an exchange, whatever has come of its rates. -/
theorem interpreted_ofRates (exchange : Currency.Exchange)
    (rates : Except Currency.Fault Currency.Snapshot) :
    Interpreted (Answer.ofRates exchange rates).hits := by
  unfold Answer.ofRates
  split
  next => exact interpreted_singleton (Interpret.isInterpreted_hit nofun)
  next => exact interpreted_nil

/-! ### Commands, items and copied texts -/

/-- A command opens, launches or runs something, which is for the sink. -/
theorem Command.isKnown_action (command : Command) (param : String) :
    (command.action param).IsKnown := by
  unfold Command.action CommandKind.action
  split <;> exact nofun

/-- The stream of commands. -/
theorem known_matchCommands (settings : Settings) (query : String) :
    Known (matchCommands settings query) := by
  unfold matchCommands
  dsimp only
  split
  next => exact known_nil
  next =>
    refine known_filterMap fun command hit h => ?_
    -- A command is matched with a parameter behind its keyword, or by its name.
    unfold matchCommand? at h
    dsimp only at h
    split at h
    next =>
      obtain rfl := Option.some.inj h
      exact command.isKnown_action _
    next =>
      obtain ⟨found, -, rfl⟩ := Option.map_eq_some_iff.mp h
      exact command.isKnown_action _

/-- The stream of built-in commands: a result carries the identity of the command from which it was
made. -/
theorem known_matchBuiltIns (query : String) (commands : List BuiltIn) :
    Known (matchBuiltIns query commands) := by
  intro hit hhit
  obtain ⟨row, hrow, hmatch⟩ := List.mem_filterMap.mp hhit
  obtain ⟨b, -, rfl⟩ := List.mem_map.mp hrow
  obtain ⟨found, -, rfl⟩ := Option.map_eq_some_iff.mp hmatch
  intro id hid
  obtain rfl : b.id = id := Action.builtIn.inj hid
  exact ⟨b, b.ofId?_id⟩

/-- The stream of items. -/
theorem known_matchItems (query : String) (items : List Item) : Known (matchItems query items) := by
  refine known_filterMap fun item hit h => ?_
  obtain ⟨found, -, rfl⟩ := Option.map_eq_some_iff.mp h
  show item.action.IsKnown
  unfold Item.action
  split <;> exact nofun

/-- The stream of copied texts. -/
theorem known_clipboardHits (s : Sources) (query : String) (time : Int) :
    Known (s.clipboardHits query time) := by
  unfold Sources.clipboardHits
  split
  next =>
    split
    next =>
      refine known_filterMap fun entry hit h => ?_
      obtain ⟨found, -, rfl⟩ := Option.map_eq_some_iff.mp h
      exact nofun
    next => exact known_nil
  next => exact known_nil

/-! ### Searches -/

/-- All candidates for a query have known actions if those of its interpreter have. -/
theorem known_streams {s : Sources} {query : String} {hits : List Hit} {items : List Item}
    {time : Int} (h : Known hits) : Known (s.streams query hits items time).flatten := by
  have hmatched := (known_matchBuiltIns query BuiltIn.all).append
    ((known_matchItems query items).append (known_clipboardHits s query time))
  simpa [Sources.streams] using h.append ((known_matchCommands s.settings query).append hmatched)

/-- The results are grouped, and their actions are known. -/
structure Ranking.IsProper (r : Ranking) : Prop where
  isGrouped : r.IsGrouped
  known : Known r.displayed

@[simp] theorem Run.outcome_ranking (r : Run) (s : Sources) (time : Int) (answer : Answer) :
    (r.outcome s time answer).ranking = r.ranking s time answer := by
  simp only [Run.outcome]

/-- The results of a run are proper: ranking adds no candidate, and grouping no result. -/
theorem isProper_ranking (s : Sources) (time : Int) (r : Run) {answer : Answer}
    (h : Known answer.hits) : (r.ranking s time answer).IsProper := by
  unfold Run.ranking
  split
  next => exact ⟨Ranking.isGrouped_empty, known_nil⟩
  next =>
    have hgrouped : (s.ranking r.trimmedQuery answer.hits r.items time).IsGrouped :=
      Ranking.isGrouped_ofStreams _ _
    refine ⟨hgrouped, fun hit hhit => ?_⟩
    exact known_streams h hit (mem_of_mem_rank (hgrouped.displayed_perm.mem_iff.mp hhit))

end Launcher
