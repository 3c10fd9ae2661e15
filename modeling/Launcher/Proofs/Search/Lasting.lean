import Launcher.Proofs.Rates.LifeTimes
import Launcher.Proofs.Search.Tickets

namespace Launcher

/-!
# Runs that do not break off

When rates are too old and cannot be fetched again, those that are kept may still be used within a
time of grace. Their age limit is then the sum of two life times, which has to be a duration; if it
is not, the run of the query breaks off. Here it is shown that this is the only way for a run to
break off: as long as the sum is a duration, whatever else happens, none does.

* `Sources.Lasting` — the life times of rates, with the time of grace, add up to a duration.
* `Run.begin_lasting`, `Run.again_lasting` — a look at the rates keeps it so, and does not break
  off.
* `Traffic.Lasting.of_step` — each step of a traffic keeps it so, if what others change does too.
* `Traffic.Lasting.run` — as long as others keep it so too, no run breaks off.
-/

/-! ### Life times that add up -/

namespace Sources

/-- Rates live within a limit, which together with the time of grace is a duration. -/
structure Lasting (s : Sources) (limit : Nat) : Prop where
  desk : s.desk.LivesWithin limit
  ttl : s.settings.rateTtlSecs.toNat ≤ limit
  sum : limit + s.settings.rateGraceSecs.toNat < UInt64.size

end Sources

namespace Interpretation

variable {settings : Settings} {desk : Currency.Desk} {limit : Nat}

/-- What has its answer has not broken off. -/
theorem answered_ne_broken (answer : Answer) : answered answer ≠ broken := by
  intro h
  cases h

/-- An exchange breaks off only over a time of grace that is not a duration. -/
theorem ofProgress_ne_broken (exchange : Currency.Exchange) {progress : Currency.Progress}
    (h : progress ≠ .ended (.error .graceOverflow)) : ofProgress exchange progress ≠ broken := by
  unfold ofProgress
  split
  next => exact nofun
  next => exact absurd rfl h
  next => exact answered_ne_broken _

/-- An interpretation does not break off when it begins, and rates that are fetched for it live
within the limit. -/
theorem begin_lasting (hdesk : desk.LivesWithin limit) (httl : settings.rateTtlSecs.toNat ≤ limit)
    (hsum : limit + settings.rateGraceSecs.toNat < UInt64.size) (now : Nat) (query : String) :
    (begin settings desk now query).2.LivesWithin limit ∧
      (begin settings desk now query).1 ≠ broken := by
  unfold begin
  cases (Intent.classify query.toList).plan settings with
  | answered answer => exact ⟨hdesk, answered_ne_broken answer⟩
  | exchange exchange =>
    have hlook := hdesk.look (s := .ofSettings settings) httl hsum now
    dsimp only
    generalize desk.look (.ofSettings settings) now = looked at hlook
    exact ⟨hlook.1, ofProgress_ne_broken exchange hlook.2⟩

/-- Nor does it when it is looked at again. -/
theorem again_lasting (hdesk : desk.LivesWithin limit)
    (hsum : limit + settings.rateGraceSecs.toNat < UInt64.size) (now : Nat) {i : Interpretation}
    (hi : i ≠ broken) :
    (i.again settings desk now).2.LivesWithin limit ∧ (i.again settings desk now).1 ≠ broken := by
  unfold again
  split
  next exchange generation =>
    have hpoll := hdesk.poll (s := .ofSettings settings) hsum generation now
    generalize desk.poll (.ofSettings settings) generation now = polled at hpoll
    exact ⟨hpoll.1, ofProgress_ne_broken exchange hpoll.2⟩
  next => exact ⟨hdesk, hi⟩

end Interpretation

namespace Run

variable {s : Sources} {limit : Nat}

/-- So a run does not break off when it begins. -/
theorem begin_lasting (h : s.Lasting limit) (now ticket : Nat) (query : String) :
    (Run.begin s now ticket query).2.Lasting limit ∧
      (Run.begin s now ticket query).1.interpretation ≠ .broken := by
  unfold Run.begin
  dsimp only
  cases (Text.trimmed query).isEmpty with
  | true => exact ⟨h, Interpretation.answered_ne_broken {}⟩
  | false =>
    have hbegin := Interpretation.begin_lasting h.desk h.ttl h.sum now (Text.trimmed query)
    generalize Interpretation.begin s.settings s.desk now (Text.trimmed query) = begun at hbegin
    exact ⟨⟨hbegin.1, h.ttl, h.sum⟩, hbegin.2⟩

/-- Nor does it when it is looked at again. -/
theorem again_lasting (h : s.Lasting limit) (now : Nat) {r : Run}
    (hr : r.interpretation ≠ .broken) :
    (r.again s now).2.Lasting limit ∧ (r.again s now).1.interpretation ≠ .broken := by
  have hagain := Interpretation.again_lasting h.desk h.sum now hr
  exact ⟨⟨hagain.1, h.ttl, h.sum⟩, hagain.2⟩

/-- What has not broken off is not found to have. -/
theorem findings?_ne_broken {r : Run} (hr : r.interpretation ≠ .broken) :
    r.findings? ≠ some .broken := by
  unfold findings?
  split
  next hbroken => exact absurd hbroken hr
  next =>
    split
    · exact nofun
    · exact nofun
  next => exact nofun

end Run

namespace Traffic

variable {t t' : Traffic} {f : Flight} {a : Action} {limit : Nat}

/-- What others change keeps the life times within the limit. -/
def Action.Lasting (limit : Nat) (a : Action) : Prop :=
  ∀ sources wallClock, a = .change sources wallClock → sources.Lasting limit

/-- Life times add up, and no run has broken off. -/
structure Lasting (t : Traffic) (limit : Nat) : Prop where
  sources : t.sources.Lasting limit
  runs : ∀ f ∈ t.flights, ∀ run, f.stage = .running run → run.interpretation ≠ .broken

namespace Lasting

/-- Steps that touch neither the sources nor any run. -/
theorem of_same (h : t.Lasting limit) (hsources : t'.sources = t.sources)
    (hflights : ∀ f ∈ t'.flights, f ∈ t.flights) : t'.Lasting limit where
  sources := by
    rw [hsources]
    exact h.sources
  runs f hf := h.runs f (hflights f hf)

/-- A query that comes has no run yet. -/
theorem entered (h : t.Lasting limit) (inquiry : Inquiry) {stage : Stage}
    (hstage : ∀ run, stage ≠ .running run) : (t.entered inquiry stage).Lasting limit where
  sources := h.sources
  runs f hf run hrun := by
    obtain hf | hf := List.mem_append.mp hf
    · exact h.runs f hf run hrun
    · obtain rfl := List.mem_singleton.mp hf
      exact absurd hrun (hstage run)

/-- A query that goes on to a run which has not broken off. -/
theorem moved (h : t.Lasting limit) (f : Flight) {stage : Stage}
    (hstage : ∀ run, stage = .running run → run.interpretation ≠ .broken) :
    (t.moved f stage).Lasting limit where
  sources := h.sources
  runs g hg run hrun := by
    obtain hg | hg := List.mem_append.mp hg
    · exact h.runs g (mem_others.mp hg).1 run hrun
    · obtain rfl := List.mem_singleton.mp hg
      exact hstage run hrun

/-- A query that leaves takes its run with it. -/
theorem landed (h : t.Lasting limit) (f : Flight) (search : Search) :
    (t.landed f search).Lasting limit :=
  h.of_same rfl fun _ hg => (mem_others.mp hg).1

/-- Each step keeps life times within the limit and breaks off no run. -/
theorem of_step (h : t.Lasting limit) (ha : a.Lasting limit) (hstep : Step t a t') :
    t'.Lasting limit := by
  cases hstep with
  | submitted | searched => exact h.entered _ nofun
  | matured f | concluded f => exact h.moved f nofun
  | begun f hf hstage run sources hbegin =>
    have hrun := Run.begin_lasting h.sources t.now f.ticket f.query
    rw [hbegin] at hrun
    have hsources : Lasting { t with sources } limit := ⟨hrun.1, h.runs⟩
    refine hsources.moved f ?_
    rintro _ ⟨⟩
    exact hrun.2
  | looked f hf run hstage hwaits run' sources hagain =>
    have hrun := Run.again_lasting h.sources t.now
      (h.runs f (flight?_eq_some hf).1 run hstage)
    rw [hagain] at hrun
    have hsources : Lasting { t with sources } limit := ⟨hrun.1, h.runs⟩
    refine hsources.moved f ?_
    rintro _ ⟨⟩
    exact hrun.2
  | lapsed f | superseded f | broken f | withheld f => exact h.landed f _
  | published f | aborted | left => exact h.of_same rfl fun _ hg => (mem_others.mp hg).1
  | received | closed | waited => exact h.of_same rfl fun _ hg => hg
  | changed sources wallClock => exact ⟨ha sources wallClock rfl, h.runs⟩

/-- So does any number of steps. -/
theorem run (h : t.Lasting limit) {actions : List Action}
    (hactions : ∀ a ∈ actions, a.Lasting limit) : (t.run actions).Lasting limit := by
  induction actions generalizing t with
  | nil => exact h
  | cons a actions ih =>
    have hact : (t.act a).Lasting limit := by
      obtain heq | hstep := t.act_cases a
      · rw [heq]
        exact h
      · exact h.of_step (hactions a List.mem_cons_self) hstep
    exact ih hact fun b hb => hactions b (List.mem_cons_of_mem a hb)

end Lasting

end Traffic

end Launcher
