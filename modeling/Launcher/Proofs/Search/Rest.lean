import Launcher.Proofs.Search.Debounce
import Launcher.Proofs.Search.Lasting
import Launcher.Proofs.Search.Publication
import Launcher.Settings.Validity

namespace Launcher.Traffic

/-!
# No search is lost

When queries come faster than they are answered, earlier ones may be dropped, but the last one must
not be: once nothing is on its way any more, its outcome has to be shown. Between its coming and
that moment there is always something to follow. The query is on its way, or its outcome is shown;
tasks that are to be aborted are those of earlier queries; and it leaves unanswered only if its run
breaks off or if its caller goes away.

* `Cautious` — only tasks of earlier queries are to be aborted.
* `Attended` — the outcome of the last query is shown, or that query is on its way.
* `Attended.of_step` — no step loses the last query, unless its run breaks off.
* `attended_run` — so it is at all times, unless the run of that query has broken off.
* `nothing_lost` — so nothing is lost at rest; `lost_with_life_times` shows what the life times of
  rates have to do with it.
-/

variable {t t' : Traffic} {f : Flight} {a : Action} {sources : Sources} {wallClock : Int}
  {actions : List Action}

/-! ### Tasks that are to be aborted -/

/-- Only tasks of earlier queries are to be aborted. -/
structure Cautious (t : Traffic) : Prop where
  pending : ∀ ticket, t.pending = some ticket → ticket ≤ t.board.latest
  aborted : ∀ ticket ∈ t.aborted, ticket < t.board.latest

namespace Cautious

/-- Steps that ask for no abortion and issue no ticket. -/
theorem of_same (h : Cautious t) (hpending : t'.pending = t.pending)
    (haborted : t'.aborted = t.aborted) (hlatest : t'.board.latest = t.board.latest) :
    Cautious t' where
  pending := by
    rw [hpending, hlatest]
    exact h.pending
  aborted := by
    rw [haborted, hlatest]
    exact h.aborted

/-- A query that comes asks for the abortion of what was pending, which is older. -/
theorem entered (h : Cautious t) (inquiry : Inquiry) (stage : Stage) :
    Cautious (t.entered inquiry stage) where
  pending ticket hticket := by
    have hticket : (if inquiry.isSubmitted then some (t.board.latest + 1) else none) =
        some ticket := hticket
    show ticket ≤ t.board.latest + 1
    split at hticket
    · exact Nat.le_of_eq (Option.some.inj hticket).symm
    · exact nomatch hticket
  aborted ticket hticket := by
    show ticket < t.board.latest + 1
    -- What was pending is at most the last ticket, and that is not the last one any more.
    obtain hticket | hticket := List.mem_append.mp hticket
    · have hlt := h.aborted ticket hticket
      omega
    · have hle := h.pending ticket (Option.mem_toList.mp hticket)
      omega

/-- Each step keeps that. -/
theorem of_step (h : Cautious t) (hstep : Step t a t') : Cautious t' := by
  cases hstep with
  | submitted | searched => exact h.entered _ _
  | _ => exact h.of_same rfl rfl rfl

end Cautious

/-- So it is after any actions. -/
theorem cautious_run (sources : Sources) (wallClock : Int) (actions : List Action) :
    Cautious ((opened sources wallClock).run actions) := by
  refine run_induction (fun _ _ _ h hstep => h.of_step hstep) ?_ actions
  exact ⟨nofun, nofun⟩

/-! ### The last query -/

/-- The outcome of the last query is shown. -/
def ShowsLast (t : Traffic) : Prop :=
  ∃ o, t.board.shown = some o ∧ o.ticket = t.board.latest

/-- The outcome of the last query is shown, or that query is on its way. -/
def Attended (t : Traffic) : Prop :=
  t.ShowsLast ∨ ∃ f ∈ t.flights, f.ticket = t.board.latest

/-- The run of the query of a ticket has broken off. -/
def Breaks (t : Traffic) (ticket : Nat) : Prop :=
  ∃ f run, t.flight? ticket = some f ∧ f.stage = .running run ∧ run.findings? = some .broken

/-- A query that comes is on its way. -/
theorem attended_entered (t : Traffic) (inquiry : Inquiry) (stage : Stage) :
    Attended (t.entered inquiry stage) :=
  .inr ⟨_, List.mem_append_right _ (List.mem_singleton.mpr rfl), rfl⟩

namespace Attended

/-- Steps that leave the last query on its way, or what is shown as it is. -/
theorem of_flights (h : Attended t) (hboard : t'.board.latest = t.board.latest)
    (hshown : t'.board.shown = t.board.shown)
    (hflights : ∀ f ∈ t.flights, f.ticket = t.board.latest →
      ∃ g ∈ t'.flights, g.ticket = f.ticket) : Attended t' := by
  unfold Attended ShowsLast
  rw [hboard, hshown]
  obtain hshows | ⟨f, hf, hlast⟩ := h
  · exact .inl hshows
  · obtain ⟨g, hg, hticket⟩ := hflights f hf hlast
    exact .inr ⟨g, hg, hticket.trans hlast⟩

/-- A query that goes on is still on its way. -/
theorem moved (h : Attended t) (f : Flight) (stage : Stage) : Attended (t.moved f stage) := by
  refine h.of_flights rfl rfl ?_
  intro g hg _
  by_cases hsame : g.ticket = f.ticket
  · exact ⟨_, List.mem_append_right _ (List.mem_singleton.mpr rfl), hsame.symm⟩
  · exact ⟨g, List.mem_append_left _ (mem_others.mpr ⟨hg, hsame⟩), rfl⟩

/-- A query that is not the last one may leave. -/
theorem of_others (h : Attended t) {ticket : Nat} (hpassed : t.board.latest ≠ ticket)
    (hboard : t'.board = t.board) (hflights : t'.flights = t.others ticket) : Attended t' := by
  refine h.of_flights (by rw [hboard]) (by rw [hboard]) ?_
  intro f hf hlast
  rw [hflights]
  exact ⟨f, mem_others.mpr ⟨hf, fun hticket => hpassed (hlast.symm.trans hticket)⟩, rfl⟩

/-- No step loses the last query, unless its run breaks off or its caller goes away. -/
theorem of_step (h : Attended t) (hticketed : Ticketed t) (hcautious : Cautious t)
    (hstay : ∀ ticket, a ≠ .leave ticket) (hstep : Step t a t') :
    Attended t' ∨ (a = .advance t.board.latest ∧ t.Breaks t.board.latest) := by
  cases hstep with
  | submitted | searched => exact .inl (attended_entered t _ _)
  | matured f | begun f | looked f | concluded f => exact .inl (h.moved f _)
  | lapsed f hf due hstage hdue hpassed => exact .inl (h.of_others hpassed rfl rfl)
  | superseded f hf run hstage answer hfindings hpassed =>
    rw [(hticketed.fits_running hf hstage).1] at hpassed
    exact .inl (h.of_others hpassed rfl rfl)
  | withheld f hf outcome hstage hpassed =>
    rw [(hticketed.fits_concluded hf hstage).1] at hpassed
    exact .inl (h.of_others hpassed rfl rfl)
  | published f hf outcome hstage hcurrent => exact .inl (.inl ⟨outcome, rfl, hcurrent.symm⟩)
  | broken f hf run hstage hfindings =>
    by_cases hlast : t.board.latest = f.ticket
    · rw [hlast]
      exact .inr ⟨rfl, f, run, hf, hstage, hfindings⟩
    · exact .inl (h.of_others hlast rfl rfl)
  | aborted ticket hasked =>
    have hpassed : t.board.latest ≠ ticket := Nat.ne_of_gt (hcautious.aborted ticket hasked)
    exact .inl (h.of_others hpassed rfl rfl)
  | left f => exact absurd rfl (hstay f.ticket)
  | received | closed | waited | changed => exact .inl (h.of_flights rfl rfl fun f hf _ => ⟨f, hf, rfl⟩)

end Attended

/-- A step is the coming of a query, or it leaves the last ticket as it is. -/
theorem Step.latest (hstep : Step t a t') : Attended t' ∨ t'.board.latest = t.board.latest := by
  cases hstep with
  | submitted | searched => exact .inl (attended_entered t _ _)
  | _ => exact .inr rfl

/-- The run of a query broke off in the course of some actions. -/
def BrokeOff (start : Traffic) (actions : List Action) (ticket : Nat) : Prop :=
  ∃ before after, actions = before ++ .advance ticket :: after ∧ (start.run before).Breaks ticket

/-- What has broken off stays so. -/
theorem BrokeOff.concat {start : Traffic} {ticket : Nat} (h : BrokeOff start actions ticket)
    (a : Action) : BrokeOff start (actions ++ [a]) ticket := by
  obtain ⟨before, after, rfl, hbreaks⟩ := h
  exact ⟨before, after ++ [a], by simp, hbreaks⟩

/-- **At all times** nothing was asked yet, or the last query is shown or on its way, or its run has
broken off. -/
theorem attended_run (sources : Sources) (wallClock : Int) {actions : List Action}
    (hstay : ∀ ticket, .leave ticket ∉ actions) :
    let t := (opened sources wallClock).run actions
    t.asked = [] ∨ t.Attended ∨ BrokeOff (opened sources wallClock) actions t.board.latest := by
  induction actions using List.reverseRecOn with
  | nil => exact .inl rfl
  | append_singleton actions a ih =>
    have hstay' : ∀ ticket, .leave ticket ∉ actions :=
      fun ticket hmem => hstay ticket (List.mem_append_left _ hmem)
    have hleave : ∀ ticket, a ≠ .leave ticket := by
      rintro ticket rfl
      exact hstay ticket (List.mem_append_right _ (List.mem_singleton.mpr rfl))
    have hticketed := ticketed_run sources wallClock actions
    have hcautious := cautious_run sources wallClock actions
    have hbefore := ih hstay'
    dsimp only at hbefore ⊢
    rw [run_concat]
    obtain hsame | hstep := ((opened sources wallClock).run actions).act_cases a
    · rw [hsame]
      exact hbefore.imp_right (.imp_right (.concat · a))
    · obtain hnothing | hattended | hbroke := hbefore
      · -- What is asked first is on its way; other steps ask for nothing.
        obtain hattended | hlatest := hstep.latest
        · exact .inr (.inl hattended)
        · have hasked := (hticketed.of_step hstep).latest
          rw [hlatest, hticketed.latest, hnothing] at hasked
          exact .inl (List.length_eq_zero_iff.mp hasked.symm)
      · obtain hattended' | ⟨rfl, hbreaks⟩ := hattended.of_step hticketed hcautious hleave hstep
        · exact .inr (.inl hattended')
        · obtain hattended' | hlatest := hstep.latest
          · exact .inr (.inl hattended')
          · rw [hlatest]
            exact .inr (.inr ⟨actions, [], rfl, hbreaks⟩)
      · obtain hattended | hlatest := hstep.latest
        · exact .inr (.inl hattended)
        · rw [hlatest]
          exact .inr (.inr (hbroke.concat a))

/-! ### Main theorem -/

/-- The outcome that is shown is for the query of its ticket. -/
theorem query_of_shown (sources : Sources) (wallClock : Int) (actions : List Action) {o : Outcome}
    (hshown : ((opened sources wallClock).run actions).board.shown = some o)
    (hlast : o.ticket = ((opened sources wallClock).run actions).board.latest) :
    ∃ isSubmitted, (actions.filterMap Action.inquiry?).getLast? = some ⟨o.query, isSubmitted⟩ := by
  have hmirrored := mirrored_run sources wallClock actions
  rw [hmirrored.shown] at hshown
  obtain ⟨p, hp, rfl⟩ := Option.map_eq_some_iff.mp hshown
  obtain ⟨n, hn, hasked⟩ :=
    ((accounted_run sources wallClock actions).published p (List.mem_of_getLast? hp)).1
  rw [asked_run] at hasked
  have hlength : n = (actions.filterMap Action.inquiry?).length - 1 := by
    rw [latest_run] at hlast
    omega
  refine ⟨p.isSubmitted, ?_⟩
  rw [List.getLast?_eq_getElem?, ← hlength]
  exact hasked

/-- **At rest** the outcome of the last query is shown, or the run of that query has broken off. -/
theorem rest_cases (sources : Sources) (wallClock : Int) {actions : List Action}
    (hstay : ∀ ticket, .leave ticket ∉ actions)
    (hasked : actions.filterMap Action.inquiry? ≠ [])
    (hrest : ((opened sources wallClock).run actions).flights = []) :
    ((opened sources wallClock).run actions).ShowsLast ∨
      BrokeOff (opened sources wallClock) actions
        ((opened sources wallClock).run actions).board.latest := by
  obtain hnothing | hattended | hbroke := attended_run sources wallClock hstay
  · rw [asked_run] at hnothing
    exact absurd hnothing hasked
  · obtain hshows | ⟨f, hf, -⟩ := hattended
    · exact .inl hshows
    · rw [hrest] at hf
      exact nomatch hf
  · exact .inr hbroke

/-- As long as life times add up, no run breaks off. -/
theorem Lasting.not_breaks {limit : Nat} (h : t.Lasting limit) (ticket : Nat) :
    ¬t.Breaks ticket := by
  rintro ⟨f, run, hf, hstage, hbroken⟩
  exact Run.findings?_ne_broken (h.runs f (flight?_eq_some hf).1 run hstage) hbroken

/-- What those who ask can rely on in a run of some actions. -/
structure Serves (start : Traffic) (actions : List Action) : Prop where
  /-- When something was asked and nothing is on its way any more, the outcome of the last query is
  shown. -/
  rest : actions.filterMap Action.inquiry? ≠ [] → (start.run actions).flights = [] →
    ∃ o isSubmitted, (start.run actions).board.shown = some o ∧
      o.ticket = (start.run actions).board.latest ∧
      (actions.filterMap Action.inquiry?).getLast? = some ⟨o.query, isSubmitted⟩
  /-- A submitted query is published after the debounce time, and before any other query comes. -/
  debounced : ∀ p ∈ (start.run actions).publications, p.isSubmitted = true →
    Debounced start actions p

/-- **No search is lost.** As long as life times of rates add up to durations and no caller goes away,
a new engine at rest shows the outcome of the last query, in every run; and it has published
submitted queries only after their debounce times and before others came. -/
theorem nothing_lost {limit : Nat} (hsources : sources.Lasting limit)
    (hactions : ∀ a ∈ actions, a.Lasting limit) (hstay : ∀ ticket, .leave ticket ∉ actions) :
    Serves (opened sources wallClock) actions where
  rest hasked hrest := by
    have hstart : (opened sources wallClock).Lasting limit := ⟨hsources, by simp [opened]⟩
    obtain ⟨o, hshown, hlast⟩ | ⟨before, after, heq, hbreaks⟩ :=
      rest_cases sources wallClock hstay hasked hrest
    · obtain ⟨isSubmitted, hquery⟩ := query_of_shown sources wallClock actions hshown hlast
      exact ⟨o, isSubmitted, hshown, hlast, hquery⟩
    · have hbefore : ((opened sources wallClock).run before).Lasting limit :=
        hstart.run fun a ha => hactions a (heq ▸ List.mem_append_left _ ha)
      exact absurd hbreaks (hbefore.not_breaks _)
  debounced := debounced_run sources wallClock actions

/-- A query is submitted, its debounce time passes, and it goes on until it is published. -/
theorem nothing_lost_submitted :
    let settings : Settings := { Settings.defaults {} with commands := [] }
    let sources : Sources := { settings, desk := { script := ⟨[]⟩ } }
    let actions : List Action :=
      [.submit "> ls", .wait 1000, .advance 1, .advance 1, .advance 1, .advance 1, .advance 1]
    (actions.filterMap Action.inquiry? ≠ [] ∧ ((opened sources 0).run actions).flights.length = 0 ∧
      ((opened sources 0).run actions).publications.length = 1) ∧
    sources.Lasting settings.rateTtlSecs.toNat ∧
    Serves (opened sources 0) actions := by
  intro settings sources actions
  have hsources : sources.Lasting settings.rateTtlSecs.toNat :=
    ⟨⟨nofun, nofun⟩, Nat.le_refl _, by decide⟩
  have hactions : ∀ a ∈ actions, a.Lasting settings.rateTtlSecs.toNat := by
    simp [actions, Action.Lasting]
  have hstay : ∀ ticket, Action.leave ticket ∉ actions := by simp [actions]
  exact ⟨by decide +kernel, hsources, nothing_lost hsources hactions hstay⟩

/-- Life times that do not add up lose a query under settings that are valid: rates are fetched for a
search and kept for a second; three seconds later they cannot be fetched for a submission, and its
run breaks off instead of showing the rates that it had. -/
theorem lost_with_life_times :
    let settings : Settings :=
      { Settings.defaults {} with
        commands := []
        currencyApiKey := "k"
        rateTtlSecs := 1
        rateGraceSecs := 18446744073709551615 }
    let replies : List Currency.Reply := [⟨0, .ok []⟩, ⟨0, .error (.network "down")⟩]
    let sources : Sources := { settings, desk := { script := ⟨replies⟩ } }
    let actions : List Action :=
      [.search "1 usd to eur", .advance 1, .advance 1, .advance 1, .advance 1, .wait 3000,
        .submit "1 usd to eur", .wait 1000, .advance 2, .advance 2, .advance 2]
    let t := (opened sources 0).run actions
    Settings.check settings = .ok () ∧ (∀ ticket, .leave ticket ∉ actions) ∧
      t.flights.length = 0 ∧ t.board.latest = 2 ∧ t.board.shown.map (·.ticket) = some 1 := by
  intro settings replies sources actions t
  have hstay : ∀ ticket, Action.leave ticket ∉ actions := by simp [actions]
  exact ⟨by decide +kernel, hstay, by decide +kernel, by decide +kernel, by decide +kernel⟩

end Launcher.Traffic
