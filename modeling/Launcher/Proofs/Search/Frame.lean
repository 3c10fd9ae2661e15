import Launcher.Proofs.Search.Ground
import Launcher.Search.Timeline

namespace Launcher.Engine

/-!
# What an engine keeps while time passes

Waiting for some searches is a loop: time passes, each search is looked at again, and then the
pending submission. Many properties of engines hold at the end of that loop because each of these
three kinds of steps keeps them. The induction over the loop is done here once, for a property of
the engine and one of each search.

* `Kept`, `KeptWith` — a property that time, further looks at searches and looks at the pending
  submission keep, and one that each search keeps with it.
* `KeptWith.finish`, `KeptWith.sleep` — they are kept however often these happen.
* `length_finish` — as many searches have ended as were begun.
* `begin_sources` — what the beginning of a run may change.
* `search_world`, `kept_world` — searches change neither files nor the launch history.
-/

variable {e : Engine}

/-- The passing of time and each look at what is under way keep a property of the engine, and one of
each search that is under way. -/
structure KeptWith (P : Engine → Prop) (Q : Search → Prop) : Prop where
  wait : ∀ e now, P e → P { e with now }
  again : ∀ e search, P e → Q search → P (e.again search).2 ∧ Q (e.again search).1
  poll : ∀ e, P e → P e.poll

namespace KeptWith

variable {P : Engine → Prop} {Q : Search → Prop} (h : KeptWith P Q)
include h

/-- A look at some searches keeps both properties, each search in its turn. -/
theorem againAll (he : P e) {searches : List Search} (hs : ∀ s ∈ searches, Q s) :
    P (e.againAll searches).2 ∧ ∀ s ∈ (e.againAll searches).1, Q s := by
  induction searches generalizing e with
  | nil => exact ⟨he, nofun⟩
  | cons search rest ih =>
    obtain ⟨hsearch, hrest⟩ := List.forall_mem_cons.mp hs
    obtain ⟨hengine, hlooked⟩ := h.again e search he hsearch
    obtain ⟨hengine, hall⟩ := ih hengine hrest
    exact ⟨hengine, List.forall_mem_cons.mpr ⟨hlooked, hall⟩⟩

/-- A look at what is pending keeps the property, if it is made at all. -/
theorem pollUnlessEnded (he : P e) (searches : List Search) : P (e.pollUnlessEnded searches) := by
  unfold Engine.pollUnlessEnded
  split
  · exact he
  · exact h.poll e he

/-- Any number of rounds keeps both properties. -/
theorem finishWith (he : P e) {searches : List Search} (hs : ∀ s ∈ searches, Q s) (fuel : Nat) :
    P (e.finishWith searches fuel).2 ∧ ∀ s ∈ (e.finishWith searches fuel).1, Q s := by
  induction fuel generalizing e searches with
  | zero => exact ⟨he, hs⟩
  | succ fuel ih =>
    unfold Engine.finishWith
    split
    next => exact ⟨he, hs⟩
    next =>
      split
      next => exact ⟨he, hs⟩
      next time _ =>
        -- One round: time passes, the searches are looked at, and then what is pending.
        obtain ⟨hagain, hlooked⟩ := h.againAll (h.wait e time he) hs
        exact ih (h.pollUnlessEnded hagain _) hlooked

/-- Both properties hold when the searches have ended. -/
theorem finish (he : P e) {searches : List Search} (hs : ∀ s ∈ searches, Q s) :
    P (e.finish searches).2 ∧ ∀ s ∈ (e.finish searches).1, Q s :=
  h.finishWith (h.pollUnlessEnded he searches) hs _

/-- Waiting until a moment keeps the property, in any number of looks at what is pending. -/
theorem sleepUntilWith (he : P e) (wake fuel : Nat) : P (e.sleepUntilWith wake fuel) := by
  induction fuel generalizing e with
  | zero => exact h.wait e wake he
  | succ fuel ih =>
    unfold Engine.sleepUntilWith
    split
    next time _ =>
      split
      · exact ih (h.poll _ (h.wait e time he))
      · exact h.wait e wake he
    next => exact h.wait e wake he

/-- Letting time pass keeps the property. -/
theorem sleep (he : P e) (ms : Nat) : P (e.sleep ms) :=
  h.sleepUntilWith he _ _

end KeptWith

/-- The passing of time and each look at what is under way keep a property. -/
structure Kept (P : Engine → Prop) : Prop where
  wait : ∀ e now, P e → P { e with now }
  again : ∀ e search, P e → P (e.again search).2
  poll : ∀ e, P e → P e.poll

namespace Kept

variable {P : Engine → Prop} (h : Kept P)
include h

/-- A property that asks nothing of the searches. -/
theorem keptWith : KeptWith P fun _ => True where
  wait := h.wait
  again e search he _ := ⟨h.again e search he, trivial⟩
  poll := h.poll

theorem finish (he : P e) (searches : List Search) : P (e.finish searches).2 :=
  (h.keptWith.finish he fun _ _ => trivial).1

theorem sleep (he : P e) (ms : Nat) : P (e.sleep ms) :=
  h.keptWith.sleep he ms

end Kept

/-- A look loses no search and adds none. -/
theorem length_againAll (e : Engine) (searches : List Search) :
    (e.againAll searches).1.length = searches.length := by
  induction searches generalizing e with
  | nil => rfl
  | cons search rest ih => exact congrArg (· + 1) (ih _)

theorem length_finishWith (e : Engine) (searches : List Search) (fuel : Nat) :
    (e.finishWith searches fuel).1.length = searches.length := by
  induction fuel generalizing e searches with
  | zero => rfl
  | succ fuel ih =>
    unfold Engine.finishWith
    split
    next => rfl
    next =>
      split
      next => rfl
      next => exact (ih _ _).trans (length_againAll _ _)

/-- As many searches have ended as were begun. -/
theorem length_finish (e : Engine) (searches : List Search) :
    (e.finish searches).1.length = searches.length :=
  length_finishWith _ _ _

/-! ### Sources -/

/-- The beginning of a run may change the rates and what providers remember, and nothing else. -/
theorem begin_sources (s : Sources) (now ticket : Nat) (query : String) :
    ∃ desk providers, (Run.begin s now ticket query).2 = { s with desk, providers } := by
  unfold Run.begin
  dsimp only
  split
  next => exact ⟨s.desk, s.providers, rfl⟩
  next =>
    rcases Interpretation.begin s.settings s.desk now (Text.trimmed query) with
      ⟨interpretation, desk⟩
    exact ⟨desk, _, rfl⟩

/-- The beginning of a run leaves files and the launch history as they are. -/
theorem begin_world (s : Sources) (now ticket : Nat) (query : String) :
    (Run.begin s now ticket query).2.world = s.world := by
  obtain ⟨desk, providers, heq⟩ := begin_sources s now ticket query
  rw [heq]

/-- It leaves the settings as they are. -/
theorem begin_settings (s : Sources) (now ticket : Nat) (query : String) :
    (Run.begin s now ticket query).2.settings = s.settings := by
  obtain ⟨desk, providers, heq⟩ := begin_sources s now ticket query
  rw [heq]

/-! ### Files and launch history -/

/-- Going on with a run draws on the sources but leaves them as they are. -/
theorem proceed_sources (e : Engine) (r : Run) (notify : Bool) :
    (e.proceed r notify).2.sources = e.sources := by
  rcases e.proceed_cases r notify with ⟨-, h⟩ | ⟨-, h⟩ | ⟨-, h⟩ | ⟨o, -, -, h⟩ <;> rw [h]

theorem proceedPending_sources (e : Engine) (r : Run) :
    (e.proceedPending r).sources = e.sources := by
  rcases e.proceedPending_cases r with ⟨-, h⟩ | h | ⟨o, -, -, h⟩ <;> rw [h]

/-- A search leaves files and the launch history as they are. -/
theorem search_world (e : Engine) (query : String) :
    (e.search query).2.sources.world = e.sources.world := by
  have hworld := begin_world e.sources e.now (e.board.latest + 1) query
  rcases hbegin : Run.begin e.sources e.now (e.board.latest + 1) query with ⟨run, sources⟩
  rw [hbegin] at hworld
  rw [search_eq hbegin, proceed_sources]
  exact hworld

/-- So does everything that happens while one waits for searches. -/
theorem kept_world (world : World) : Kept fun e => e.sources.world = world where
  wait _ _ h := h
  again e search h := by
    cases search with
    | running run =>
      rcases hagain : run.again e.sources e.now with ⟨run', sources⟩
      have hworld : sources.world = e.sources.world := (congrArg (·.2.world) hagain).symm
      rw [again_eq hagain, proceed_sources]
      exact hworld.trans h
    | published | superseded | broken => exact h
  poll e h := by
    rcases e.poll_cases with hpoll | hpoll | ⟨ticket, query, due, run, sources, -, hbegin, hpoll⟩ |
      ⟨run, run', sources, -, hagain, hpoll⟩ <;> rw [hpoll]
    · exact h
    · exact h
    · have hworld := begin_world e.sources e.now ticket query
      rw [hbegin] at hworld
      rw [proceedPending_sources]
      exact hworld.trans h
    · have hworld : sources.world = e.sources.world := (congrArg (·.2.world) hagain).symm
      rw [proceedPending_sources]
      exact hworld.trans h

end Launcher.Engine
