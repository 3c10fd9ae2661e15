import Launcher.Proofs.Search.Tickets
import Mathlib.Data.List.Induction

namespace Launcher.Traffic

/-!
# Debounce times

A query that is submitted waits for its debounce time, so that a user who goes on typing does not
have every beginning of a query answered. A publication of a submitted query should therefore come
after that time, and only if no other query was asked meanwhile.

* `Stage.Keeps` — a debounce time has been kept.
* `Step.flight` — what one step makes of the queries on their way.
* `Stems`, `stems_run` — a query on its way was submitted, and the debounce time that began then has
  been kept; the induction is on the actions from their end.
* `none_since` — a query with the last ticket was followed by no other, since each query takes one
  ticket.
* `Debounced` — a publication was made after the debounce time, and no query had come since.
* `debounced_run` — so it is with every publication of a submitted query.
-/

variable {t t' : Traffic} {f : Flight} {a : Action} {sources : Sources} {wallClock : Int}
  {actions : List Action}

/-- One action more is done at the end. -/
theorem run_concat (t : Traffic) (actions : List Action) (a : Action) :
    t.run (actions ++ [a]) = (t.run actions).act a :=
  t.run_append actions [a]

/-! ### Debounce times -/

/-- The debounce time has been kept: it ends when it is to end, or it has ended. -/
def Stage.Keeps (due now : Nat) : Stage → Prop
  | .debouncing due' => due' = due
  | .admitted | .running _ | .concluded _ => due ≤ now

/-- What has been kept stays so while time passes. -/
theorem Stage.Keeps.mono {due now later : Nat} {stage : Stage} (h : Stage.Keeps due now stage)
    (hle : now ≤ later) : Stage.Keeps due later stage := by
  cases stage with
  | debouncing => exact h
  | admitted | running | concluded => exact Nat.le_trans h hle

/-- A query on its way was on its way before, at most one step behind, or it has just come. -/
theorem Step.flight (hstep : Step t a t') {g : Flight} (hg : g ∈ t'.flights) :
    (∃ f ∈ t.flights, f.toInquiry = g.toInquiry ∧ f.ticket = g.ticket ∧
      ∀ due, Stage.Keeps due t.now f.stage → Stage.Keeps due t'.now g.stage) ∨
    (a.inquiry? = some g.toInquiry ∧ g.ticket = t.board.latest + 1 ∧
      (g.isSubmitted = true → a = .submit g.query ∧
        g.stage = .debouncing (t.now + t.sources.settings.debounceMs.toNat))) := by
  -- A step either moves one query to its next stage or leaves all where they are.
  have hmoved {f : Flight} (hf : t.flight? f.ticket = some f) {stage : Stage}
      (hkeeps : ∀ due, Stage.Keeps due t.now f.stage → Stage.Keeps due t.now stage)
      (hg : g ∈ t.others f.ticket ++ [{ f with stage }]) :
      ∃ f ∈ t.flights, f.toInquiry = g.toInquiry ∧ f.ticket = g.ticket ∧
        ∀ due, Stage.Keeps due t.now f.stage → Stage.Keeps due t.now g.stage := by
    obtain hg | hg := List.mem_append.mp hg
    · exact ⟨g, (mem_others.mp hg).1, rfl, rfl, fun _ h => h⟩
    · obtain rfl := List.mem_singleton.mp hg
      exact ⟨f, (flight?_eq_some hf).1, rfl, rfl, hkeeps⟩
  have hsame {later : Nat} (hle : t.now ≤ later) (hg : g ∈ t.flights) :
      ∃ f ∈ t.flights, f.toInquiry = g.toInquiry ∧ f.ticket = g.ticket ∧
        ∀ due, Stage.Keeps due t.now f.stage → Stage.Keeps due later g.stage :=
    ⟨g, hg, rfl, rfl, fun _ h => h.mono hle⟩
  cases hstep with
  | submitted query =>
    obtain hg | hg := List.mem_append.mp hg
    · exact .inl (hsame (Nat.le_refl _) hg)
    · obtain rfl := List.mem_singleton.mp hg
      exact .inr ⟨rfl, rfl, fun _ => ⟨rfl, rfl⟩⟩
  | searched query =>
    obtain hg | hg := List.mem_append.mp hg
    · exact .inl (hsame (Nat.le_refl _) hg)
    · obtain rfl := List.mem_singleton.mp hg
      exact .inr ⟨rfl, rfl, nofun⟩
  | matured f hf due hstage hdue =>
    refine .inl (hmoved hf ?_ hg)
    rw [hstage]
    rintro _ rfl
    exact hdue
  | begun f hf hstage | looked f hf _ hstage | concluded f hf _ hstage =>
    refine .inl (hmoved hf ?_ hg)
    rw [hstage]
    exact fun _ h => h
  | lapsed | superseded | broken | withheld | published | aborted | left =>
    exact .inl (hsame (Nat.le_refl _) (mem_others.mp hg).1)
  | received | closed | changed => exact .inl (hsame (Nat.le_refl _) hg)
  | waited ms => exact .inl (hsame (Nat.le_add_right _ _) hg)

/-- When the debounce time of a query ends that is submitted now. -/
def dueNow (t : Traffic) : Nat :=
  t.now + t.sources.settings.debounceMs.toNat

/-- A query was submitted in the course of some actions, took its ticket then, and the debounce time
that began then has been kept. -/
def Stems (start : Traffic) (actions : List Action) (f : Flight) : Prop :=
  ∃ before between, actions = before ++ .submit f.query :: between ∧
    f.ticket = (start.run before).board.latest + 1 ∧
    Stage.Keeps (start.run before).dueNow (start.run actions).now f.stage

/-- Every submitted query that is on its way stems from its submission. -/
theorem stems_run (start : Traffic) (hstart : start.flights = []) (actions : List Action) :
    ∀ f ∈ (start.run actions).flights, f.isSubmitted = true → Stems start actions f := by
  induction actions using List.reverseRecOn with
  | nil =>
    intro f hf
    rw [run_nil, hstart] at hf
    exact nomatch hf
  | append_singleton actions a ih =>
    intro g hg hsubmitted
    unfold Stems
    rw [run_concat] at hg ⊢
    -- A query that was on its way before has the history that it had, with one action more.
    have hold : ∀ {now : Nat} {f : Flight}, f ∈ (start.run actions).flights →
        f.toInquiry = g.toInquiry → f.ticket = g.ticket →
        (∀ due, Stage.Keeps due (start.run actions).now f.stage → Stage.Keeps due now g.stage) →
        ∃ before between, actions ++ [a] = before ++ .submit g.query :: between ∧
          g.ticket = (start.run before).board.latest + 1 ∧
          Stage.Keeps (start.run before).dueNow now g.stage := by
      intro now f hf hinquiry hticket hkeeps
      have hsubmitted' : f.isSubmitted = true := by
        rw [hinquiry]
        exact hsubmitted
      obtain ⟨before, between, heq, hfirst, hkept⟩ := ih f hf hsubmitted'
      refine ⟨before, between ++ [a], ?_, hticket.symm.trans hfirst, hkeeps _ hkept⟩
      rw [← congrArg Inquiry.query hinquiry, heq]
      simp
    obtain hsame | hstep := (start.run actions).act_cases a
    · rw [hsame] at hg ⊢
      exact hold hg rfl rfl fun _ h => h
    · obtain ⟨f, hf, hinquiry, hticket, hkeeps⟩ | ⟨-, hticket, hnew⟩ := hstep.flight hg
      · exact hold hf hinquiry hticket hkeeps
      · obtain ⟨rfl, hstage⟩ := hnew hsubmitted
        refine ⟨actions, [], rfl, hticket, ?_⟩
        rw [hstage]
        rfl

/-- As many tickets were issued as queries were asked. -/
theorem latest_run (sources : Sources) (wallClock : Int) (actions : List Action) :
    ((opened sources wallClock).run actions).board.latest =
      (actions.filterMap Action.inquiry?).length := by
  rw [(ticketed_run sources wallClock actions).latest, asked_run]
  rfl

/-- A query that still has the last ticket was not followed by another. -/
theorem none_since {before between : List Action} {query : String}
    (h : ((opened sources wallClock).run (before ++ .submit query :: between)).board.latest =
      ((opened sources wallClock).run before).board.latest + 1) :
    ∀ a ∈ between, a.inquiry? = none := by
  rw [latest_run, latest_run, List.filterMap_append, List.length_append] at h
  have hlength : (between.filterMap Action.inquiry?).length = 0 := by
    rw [List.filterMap_cons] at h
    simp only [Action.inquiry?, List.length_cons] at h
    omega
  exact List.filterMap_eq_nil_iff.mp (List.length_eq_zero_iff.mp hlength)

/-! ### Publications of submitted queries -/

/-- An action publishes nothing, or the outcome of a query that has the last ticket. -/
theorem Step.publications (hstep : Step t a t') : t'.publications = t.publications ∨
    ∃ f outcome, t.flight? f.ticket = some f ∧ f.stage = .concluded outcome ∧
      t.board.latest = outcome.ticket ∧ a = .advance f.ticket ∧
      t'.publications =
        t.publications ++ [⟨outcome, f.isSubmitted, t.board.latest, t.board.isOpen⟩] := by
  cases hstep with
  | published f hf outcome hstage hcurrent =>
    exact .inr ⟨f, outcome, hf, hstage, hcurrent, rfl, rfl⟩
  | _ => exact .inl rfl

/-- A publication was made when the debounce time was over that began when the query was submitted,
and no query had come since. -/
def Debounced (start : Traffic) (actions : List Action) (p : Publication) : Prop :=
  ∃ before between after,
    actions = before ++ .submit p.outcome.query :: between ++ .advance p.outcome.ticket :: after ∧
    let asked := start.run before
    let ready := start.run (before ++ .submit p.outcome.query :: between)
    p.outcome.ticket = asked.board.latest + 1 ∧
      asked.now + asked.sources.settings.debounceMs.toNat ≤ ready.now ∧
      (∀ a ∈ between, a.inquiry? = none) ∧
      (ready.act (.advance p.outcome.ticket)).publications = ready.publications ++ [p]

/-- What has been published stays debounced, whatever comes after it. -/
theorem Debounced.concat {start : Traffic} {p : Publication} (h : Debounced start actions p)
    (a : Action) : Debounced start (actions ++ [a]) p := by
  obtain ⟨before, between, after, rfl, hrest⟩ := h
  exact ⟨before, between, after ++ [a], by simp, hrest⟩

/-- **Every publication of a submitted query** was made after the debounce time, and before any other
query came. -/
theorem debounced_run (sources : Sources) (wallClock : Int) (actions : List Action) :
    ∀ p ∈ ((opened sources wallClock).run actions).publications, p.isSubmitted = true →
      Debounced (opened sources wallClock) actions p := by
  induction actions using List.reverseRecOn with
  | nil => exact fun p hp => nomatch hp
  | append_singleton actions a ih =>
    intro p hp hsubmitted
    rw [run_concat] at hp
    obtain hsame | hstep := ((opened sources wallClock).run actions).act_cases a
    · rw [hsame] at hp
      exact (ih p hp hsubmitted).concat a
    · obtain hsame | ⟨f, outcome, hf, hstage, hcurrent, rfl, hpublications⟩ := hstep.publications
      · rw [hsame] at hp
        exact (ih p hp hsubmitted).concat a
      · rw [hpublications] at hp
        obtain hp | hp := List.mem_append.mp hp
        · exact (ih p hp hsubmitted).concat _
        · -- This very action publishes it.
          obtain rfl := List.mem_singleton.mp hp
          obtain ⟨hticket, hquery⟩ :=
            (ticketed_run sources wallClock actions).fits_concluded hf hstage
          obtain ⟨before, between, rfl, hfirst, hkept⟩ :=
            stems_run _ rfl actions f (flight?_eq_some hf).1 hsubmitted
          rw [hstage] at hkept
          rw [← hticket] at hfirst hpublications ⊢
          rw [← hquery] at hcurrent hkept hpublications ⊢
          exact ⟨before, between, [], rfl, hfirst, hkept, none_since (hcurrent.trans hfirst),
            hpublications⟩

end Launcher.Traffic
