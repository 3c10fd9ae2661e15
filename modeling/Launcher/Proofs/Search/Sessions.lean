import Launcher.Proofs.Search.Publication

namespace Launcher

/-!
# What is done with an engine is a run

An engine is used through a few operations, each of which makes several steps of a traffic at once:
a search takes its ticket, begins its run and may publish it before it returns. A traffic knows only
the single steps, in any order. Here every list of operations is matched with a list of actions
after which the traffic has come to the same as the engine. So whatever holds of all runs of a
traffic holds of engines, whatever is done with them.

* `Session` — an engine, and the searches of its callers.
* `Session.call`, `Session.calls` — one operation of the engine, and any list of them.
* `Traffic.Reaches` — a query comes to an answer of the engine by going on some steps;
  `Traffic.reaches_proceed` counts them: none if it waits, one if it ends, two if it is published.
* `Traffic.Carries` — a traffic in which the same has happened as in a session;
  `Traffic.Carries.call` goes through the operations.
* `Session.carried` — whatever is done with a new engine happens in a run.
* `Session.updates_increasing`, `Session.published_le_shown` — so an engine never goes back to an
  older query.
-/

/-- An engine, and the searches of its callers by their tickets. -/
structure Session where
  engine : Engine
  searches : Nat → Option Search

namespace Session

/-- An operation of an engine. -/
inductive Call where
  | search (query : String)
  /-- Looks again at the search of a ticket. -/
  | again (ticket : Nat)
  | submit (query : String)
  | poll
  | receive
  | close
  | wait (ms : Nat)

/-- A new engine, without searches. -/
def opened (sources : Sources) (wallClock : Int) : Session where
  engine := { sources, wallClock }
  searches := fun _ => none

/-- The session when the search of a ticket has been looked at. -/
def hold (s : Session) (ticket : Nat) (answer : Search × Engine) : Session where
  engine := answer.2
  searches := fun other => if other = ticket then some answer.1 else s.searches other

/-- Does an operation. -/
def call (s : Session) : Call → Session
  | .search query => s.hold (s.engine.board.latest + 1) (s.engine.search query)
  | .again ticket =>
    match s.searches ticket with
    | none => s
    | some search => s.hold ticket (s.engine.again search)
  | .submit query => { s with engine := (s.engine.submit query).2 }
  | .poll => { s with engine := s.engine.poll }
  | .receive => { s with engine := s.engine.receive.2 }
  | .close => { s with engine := s.engine.close }
  | .wait ms => { s with engine := { s.engine with now := s.engine.now + ms } }

/-- Does operations in order. -/
def calls (s : Session) (ops : List Call) : Session :=
  ops.foldl call s

end Session

namespace Traffic

variable {t t' : Traffic} {f g : Flight}

/-! ### What happens to other queries -/

/-- An action leaves the query of a ticket alone. -/
def Action.Spares (ticket : Nat) : Action → Prop
  | advance other | abort other | leave other => other ≠ ticket
  | submit _ | search _ | receive | close | wait _ | change _ _ => True

/-- A query that is left alone stays on its way, at its stage. -/
theorem Step.mem_flights {a : Action} (hstep : Step t a t') (hf : f ∈ t.flights)
    (ha : a.Spares f.ticket) : f ∈ t'.flights := by
  cases hstep with
  | submitted | searched => exact List.mem_append_left _ hf
  | matured | begun | looked | concluded =>
    exact List.mem_append_left _ (mem_others.mpr ⟨hf, Ne.symm ha⟩)
  | lapsed | superseded | broken | published | withheld | aborted | left =>
    exact mem_others.mpr ⟨hf, Ne.symm ha⟩
  | received | closed | waited | changed => exact hf

/-- What was returned stays so. -/
theorem Step.mem_returned {a : Action} (hstep : Step t a t') {r : Nat × Search}
    (hr : r ∈ t.returned) : r ∈ t'.returned := by
  cases hstep with
  | lapsed | superseded | broken | published | withheld => exact List.mem_append_left _ hr
  | _ => exact hr

/-- An action that spares a query leaves it on its way. -/
theorem mem_flights_act {a : Action} (hf : f ∈ t.flights) (ha : a.Spares f.ticket) :
    f ∈ (t.act a).flights := by
  rcases t.act_cases a with heq | hstep
  · rw [heq]
    exact hf
  · exact hstep.mem_flights hf ha

/-- An action keeps tickets and queries together, also one that cannot be done now. -/
theorem Ticketed.act (h : Ticketed t) (a : Action) : Ticketed (t.act a) := by
  rcases t.act_cases a with heq | hstep
  · rw [heq]
    exact h
  · exact h.of_step hstep

/-- The traffic when the query of a ticket has gone on by some steps. -/
def advances (t : Traffic) (ticket n : Nat) : Traffic :=
  t.run (List.replicate n (.advance ticket))

/-- The first of some steps is made first. -/
theorem advances_succ (t : Traffic) (ticket n : Nat) :
    t.advances ticket (n + 1) = (t.act (.advance ticket)).advances ticket n := by
  unfold advances
  rw [List.replicate_succ, run_cons]

/-- Steps of a query keep tickets and queries together. -/
theorem Ticketed.advances (h : Ticketed t) (ticket n : Nat) : Ticketed (t.advances ticket n) :=
  run_induction (fun _ _ _ h hstep => h.of_step hstep) h _

/-- They take nothing back from the callers. -/
theorem mem_returned_advances {r : Nat × Search} (hr : r ∈ t.returned) (ticket n : Nat) :
    r ∈ (t.advances ticket n).returned :=
  run_induction (fun _ _ _ h hstep => hstep.mem_returned h) hr _

/-- They leave every other query where it is. -/
theorem mem_flights_advances (hf : f ∈ t.flights) {ticket : Nat} (hne : ticket ≠ f.ticket)
    (n : Nat) : f ∈ (t.advances ticket n).flights := by
  induction n generalizing t with
  | zero => exact hf
  | succ n ih =>
    rw [advances_succ]
    exact ih (mem_flights_act hf hne)

/-! ### What becomes of one query -/

/-- What has become of a query: it is on its way and waits, or it has returned. -/
def Came (t : Traffic) (ticket : Nat) (inquiry : Inquiry) : Search → Prop
  | .running run =>
    { inquiry with ticket, stage := .running run } ∈ t.flights ∧ run.findings? = none
  | search => inquiry.isSubmitted = false → (ticket, search) ∈ t.returned

/-- A query comes to an answer of an engine by going on some steps. -/
def Reaches (t : Traffic) (ticket : Nat) (inquiry : Inquiry) (answer : Search × Engine) : Prop :=
  ∃ n, (t.advances ticket n).toGround = answer.2.toGround ∧
    (t.advances ticket n).Came ticket inquiry answer.1

/-- What is reached after one step is reached. -/
theorem Reaches.of_act {ticket : Nat} {inquiry : Inquiry} {answer : Search × Engine}
    (h : (t.act (.advance ticket)).Reaches ticket inquiry answer) :
    t.Reaches ticket inquiry answer := by
  obtain ⟨n, hground, hcame⟩ := h
  refine ⟨n + 1, ?_, ?_⟩
  · rw [advances_succ]
    exact hground
  · rw [advances_succ]
    exact hcame

/-- A query on its way is the one that goes on under its ticket. -/
theorem act_advance (h : Ticketed t) (hf : f ∈ t.flights) :
    t.act (.advance f.ticket) = t.proceed f := by
  show t.advance f.ticket = _
  unfold advance
  rw [h.flight?_eq hf]

/-- A query that goes on to a stage is on its way at that stage. -/
theorem mem_moved (t : Traffic) (f : Flight) (stage : Stage) :
    { f with stage } ∈ (t.moved f stage).flights :=
  List.mem_append_right _ (List.mem_singleton.mpr rfl)

/-- A run that an engine goes on with waits, ends at once, or is published after one more step. -/
theorem reaches_proceed (h : Ticketed t) {e : Engine} (hground : t.toGround = e.toGround)
    (hf : f ∈ t.flights) {run : Run} (hstage : f.stage = .running run) :
    t.Reaches f.ticket f.toInquiry (e.proceed run f.isSubmitted) := by
  obtain ⟨ground, pending⟩ := e
  obtain rfl : t.toGround = ground := hground
  have hact := act_advance h hf
  unfold proceed at hact
  simp only [hstage] at hact
  unfold Engine.proceed Engine.settle?
  rcases t.conclude?_cases run with
    ⟨hwaits, hc⟩ | ⟨-, hc⟩ | ⟨answer, -, -, hc⟩ | ⟨answer, -, hcurrent, hc⟩
  · -- The run waits, and nothing happens.
    simp only [hc, Option.map_none, Option.getD_none]
    refine ⟨0, rfl, ?_, hwaits⟩
    rw [← hstage]
    exact hf
  · simp only [hc] at hact ⊢
    refine .of_act ⟨0, ?_, ?_⟩
    · rw [hact]
      rfl
    · rw [hact]
      exact fun hsearched => mem_returned_landed.mpr (.inr ⟨hsearched, rfl⟩)
  · simp only [hc] at hact ⊢
    refine .of_act ⟨0, ?_, ?_⟩
    · rw [hact]
      rfl
    · rw [hact]
      exact fun hsearched => mem_returned_landed.mpr (.inr ⟨hsearched, rfl⟩)
  · -- The outcome is made in one step and published in the next.
    simp only [hc] at hact ⊢
    have hmoved : Ticketed (t.act (.advance f.ticket)) := h.act _
    generalize houtcome : run.outcome t.sources t.wallClock answer = outcome at hact ⊢
    have hlast : t.board.latest = outcome.ticket := by
      rw [← houtcome]
      exact hcurrent
    rw [hact] at hmoved
    have hpublish : (t.moved f (.concluded outcome)).act (.advance f.ticket) =
        (t.moved f (.concluded outcome)).published { f with stage := .concluded outcome } outcome :=
      (act_advance hmoved (mem_moved t f _)).trans
        (publish_of_current (t := t.moved f (.concluded outcome)) hlast _)
    refine .of_act ?_
    rw [hact]
    refine .of_act ?_
    rw [hpublish]
    refine ⟨0, ?_, ?_⟩
    · simp only [Option.map_some, Option.getD_some, Ground.carryOut,
        Ground.deliver_of_current hlast]
      rfl
    · simp only [Option.map_some, Option.getD_some, Ground.carryOut,
        Ground.deliver_of_current hlast]
      exact fun hsearched => mem_returned_landed.mpr (.inr ⟨hsearched, rfl⟩)

/-- A query whose run has been begun or looked at again in one step goes on with that run. -/
theorem reaches_of_moved (h : Ticketed t) {e : Engine} (hground : t.toGround = e.toGround)
    {run : Run} {sources : Sources}
    (hact : t.act (.advance f.ticket) = { t with sources }.moved f (.running run)) :
    t.Reaches f.ticket f.toInquiry ({ e with sources }.proceed run f.isSubmitted) := by
  have hmoved : Ticketed (t.act (.advance f.ticket)) := h.act _
  rw [hact] at hmoved
  refine .of_act ?_
  rw [hact]
  refine reaches_proceed hmoved ?_ (mem_moved { t with sources } f (.running run)) rfl
  show { t.toGround with sources } = { e.toGround with sources }
  rw [hground]

/-- A query that is admitted begins its run in one step, and goes on with it. -/
theorem reaches_begin (h : Ticketed t) {e : Engine} (hground : t.toGround = e.toGround)
    (hf : f ∈ t.flights) (hstage : f.stage = .admitted) {run : Run} {sources : Sources}
    (hbegin : Run.begin e.sources e.now f.ticket f.query = (run, sources)) :
    t.Reaches f.ticket f.toInquiry ({ e with sources }.proceed run f.isSubmitted) := by
  refine reaches_of_moved h hground ?_
  rw [act_advance h hf]
  rw [← hground] at hbegin
  unfold proceed begin
  simp only [hstage, hbegin]

/-- A query that waits looks at its run again in one step, and goes on with it. -/
theorem reaches_again (h : Ticketed t) {e : Engine} (hground : t.toGround = e.toGround)
    (hf : f ∈ t.flights) {run run' : Run} (hstage : f.stage = .running run)
    (hwaits : run.findings? = none) {sources : Sources}
    (hagain : run.again e.sources e.now = (run', sources)) :
    t.Reaches f.ticket f.toInquiry ({ e with sources }.proceed run' f.isSubmitted) := by
  refine reaches_of_moved h hground ?_
  rw [act_advance h hf]
  have hnone : t.conclude? run = none := by
    unfold Ground.conclude?
    rw [hwaits]
    rfl
  rw [← hground] at hagain
  unfold proceed look
  simp only [hstage, hnone, hagain]

end Traffic

/-! ### Sessions -/

/-- The query of a submission that is pending, on its way. -/
def Submission.flight : Submission → Flight
  | debouncing ticket query due => ⟨⟨query, true⟩, ticket, .debouncing due⟩
  | running run => ⟨⟨run.query, true⟩, run.ticket, .running run⟩

theorem Submission.flight_isSubmitted (p : Submission) : p.flight.isSubmitted = true := by
  cases p <;> rfl

namespace Traffic

variable {t t' : Traffic} {f g : Flight} {s : Session}

/-- A traffic in which the same has happened as in a session. -/
structure Carries (t : Traffic) (s : Session) : Prop where
  ticketed : Ticketed t
  ground : t.toGround = s.engine.toGround
  pending : ∀ p, s.engine.pending = some p →
    p.flight ∈ t.flights ∧ ∀ run, p = .running run → run.findings? = none
  searches : ∀ ticket search, s.searches ticket = some search →
    ∃ query, t.Came ticket ⟨query, false⟩ search

/-- Two queries on their way have two tickets. -/
theorem Ticketed.ticket_ne (h : Ticketed t) (hf : f ∈ t.flights) (hg : g ∈ t.flights)
    (hne : f ≠ g) : f.ticket ≠ g.ticket := by
  intro heq
  have hfound := h.flight?_eq hf
  rw [heq, h.flight?_eq hg] at hfound
  exact hne (Option.some.inj hfound).symm

/-- What has become of one query does not change while another goes on. -/
theorem Came.of_advances {ticket : Nat} {inquiry : Inquiry} {search : Search}
    (hc : t.Came ticket inquiry search) (h : Ticketed t) (hf : f ∈ t.flights)
    (hne : f.ticket = ticket → f.toInquiry ≠ inquiry) (n : Nat) :
    (t.advances f.ticket n).Came ticket inquiry search := by
  cases search with
  | running run =>
    refine ⟨mem_flights_advances hc.1 ?_ n, hc.2⟩
    refine h.ticket_ne hf hc.1 ?_
    rintro rfl
    exact hne rfl rfl
  | published | superseded | broken =>
    exact fun hsearched => mem_returned_advances (hc hsearched) _ n

namespace Carries

/-- A search has been looked at. -/
theorem hold (h : Carries t s) (hf : f ∈ t.flights) (hsearched : f.isSubmitted = false)
    {answer : Search × Engine} (hpending : answer.2.pending = s.engine.pending)
    (hr : t.Reaches f.ticket f.toInquiry answer) :
    ∃ actions, Carries (t.run actions) (s.hold f.ticket answer) := by
  obtain ⟨n, hground, hcame⟩ := hr
  refine ⟨List.replicate n (.advance f.ticket), h.ticketed.advances f.ticket n, hground, ?_, ?_⟩
  · -- The pending query was submitted, so it is not the one that goes on.
    intro p hp
    obtain ⟨hp, hwaits⟩ := h.pending p (hpending ▸ hp)
    refine ⟨mem_flights_advances hp ?_ n, hwaits⟩
    refine h.ticketed.ticket_ne hf hp ?_
    intro heq
    have hsubmitted := p.flight_isSubmitted
    rw [← heq, hsearched] at hsubmitted
    exact Bool.false_ne_true hsubmitted
  · intro ticket search hs
    simp only [Session.hold] at hs
    by_cases hticket : ticket = f.ticket
    · rw [if_pos hticket] at hs
      obtain rfl := Option.some.inj hs
      refine ⟨f.query, ?_⟩
      rw [hticket, ← hsearched]
      exact hcame
    · rw [if_neg hticket] at hs
      obtain ⟨query, hc⟩ := h.searches ticket search hs
      exact ⟨query, hc.of_advances h.ticketed hf (fun heq => absurd heq.symm hticket) n⟩

/-- What became of searches does not change while the pending submission goes on. -/
theorem came_advances (h : Carries t s) (hf : f ∈ t.flights) (hsubmitted : f.isSubmitted = true)
    (n : Nat) (ticket : Nat) (search : Search) (hs : s.searches ticket = some search) :
    ∃ query, (t.advances f.ticket n).Came ticket ⟨query, false⟩ search := by
  obtain ⟨query, hc⟩ := h.searches ticket search hs
  refine ⟨query, hc.of_advances h.ticketed hf ?_ n⟩
  rintro - heq
  rw [heq] at hsubmitted
  exact Bool.false_ne_true hsubmitted

/-- The pending submission has been looked at. -/
theorem proceedPending (h : Carries t s) (hf : f ∈ t.flights) (hsubmitted : f.isSubmitted = true)
    {e : Engine} {run : Run} (hr : t.Reaches f.ticket f.toInquiry (e.proceed run true)) :
    ∃ actions, Carries (t.run actions) { s with engine := e.proceedPending run } := by
  obtain ⟨n, hground, hcame⟩ := hr
  have hticketed := h.ticketed.advances f.ticket n
  have hsearches := h.came_advances hf hsubmitted n
  unfold Engine.proceedPending
  generalize e.proceed run true = answer at hground hcame
  obtain ⟨search, e'⟩ := answer
  cases search with
  | running run' =>
    refine ⟨List.replicate n (.advance f.ticket), hticketed, hground, ?_, hsearches⟩
    intro p hp
    obtain rfl := Option.some.inj hp
    obtain ⟨hmem, hwaits⟩ := hcame
    obtain ⟨hticket, hquery⟩ := hticketed.fits _ hmem
    refine ⟨?_, ?_⟩
    · have hflight : (Submission.running run').flight =
          { f.toInquiry with ticket := f.ticket, stage := .running run' } := by
        simp only [Submission.flight, hticket, hquery, ← hsubmitted]
      rw [hflight]
      exact hmem
    · rintro _ ⟨⟩
      exact hwaits
  | published | superseded | broken =>
    refine ⟨List.replicate n (.advance f.ticket), hticketed, hground, ?_, hsearches⟩
    intro p hp
    simp at hp

/-- A query has come: the submission that was pending is dropped. -/
theorem entered (h : Carries t s) (inquiry : Inquiry) (stage : Stage)
    (hfits : stage.Fits (t.board.latest + 1) inquiry.query) {e : Engine}
    (hground : (t.entered inquiry stage).toGround = e.toGround)
    (hpending : ∀ p, e.pending = some p → p.flight ∈ (t.entered inquiry stage).flights ∧
      ∀ run, p = .running run → run.findings? = none) :
    Carries (t.entered inquiry stage) { s with engine := e } where
  ticketed := h.ticketed.entered hfits
  ground := hground
  pending := hpending
  searches := by
    intro ticket search hs
    obtain ⟨query, hc⟩ := h.searches ticket search hs
    refine ⟨query, ?_⟩
    cases search with
    | running run => exact ⟨List.mem_append_left _ hc.1, hc.2⟩
    | published | superseded | broken => exact hc

/-- A search begins. -/
theorem begin (h : Carries t s) (hf : f ∈ t.flights) (hsearched : f.isSubmitted = false)
    (hstage : f.stage = .admitted) {run : Run} {sources : Sources}
    (hbegin : Run.begin s.engine.sources s.engine.now f.ticket f.query = (run, sources)) :
    ∃ actions, Carries (t.run actions)
      (s.hold f.ticket ({ s.engine with sources }.proceed run false)) := by
  have hr := reaches_begin h.ticketed h.ground hf hstage hbegin
  rw [hsearched] at hr
  have hpending : ({ s.engine with sources }.proceed run false).2.pending = s.engine.pending :=
    Engine.proceed_pending _ run false
  exact h.hold hf hsearched hpending hr

/-- A search takes its ticket in one action and goes on in the next ones. -/
theorem search (h : Carries t s) (query : String) :
    ∃ actions, Carries (t.run actions) (s.call (.search query)) := by
  have hlatest : t.board.latest = s.engine.board.latest := by rw [h.ground]
  have hentered : Carries (t.search query)
      { s with engine := { s.engine with board := s.engine.board.issue.2, pending := none } } := by
    refine h.entered ⟨query, false⟩ .admitted trivial ?_ (by simp)
    show { t.toGround with board := t.board.issue.2 } =
      { s.engine.toGround with board := s.engine.board.issue.2 }
    rw [h.ground]
  have hf : ⟨⟨query, false⟩, s.engine.board.latest + 1, .admitted⟩ ∈ (t.search query).flights := by
    refine List.mem_append_right _ (List.mem_singleton.mpr ?_)
    rw [← hlatest]
  -- The engine takes a ticket and begins the run in one operation, which are two actions here.
  rcases hbegin : Run.begin s.engine.sources s.engine.now (s.engine.board.latest + 1) query with
    ⟨run, sources⟩
  obtain ⟨actions, hactions⟩ := hentered.begin hf rfl rfl hbegin
  refine ⟨.search query :: actions, ?_⟩
  rw [run_cons]
  show Carries _ (s.hold _ (s.engine.search query))
  rw [Engine.search_eq hbegin]
  exact hactions

/-- A submission is one action, and waits for its debounce time. -/
theorem submit (h : Carries t s) (query : String) :
    ∃ actions, Carries (t.run actions) (s.call (.submit query)) := by
  refine ⟨[.submit query], h.entered ⟨query, true⟩ (.debouncing _) trivial ?_ ?_⟩
  · show { t.toGround with board := t.board.issue.2 } =
      { s.engine.toGround with board := s.engine.board.issue.2 }
    rw [h.ground]
  · rintro _ ⟨⟩
    refine ⟨?_, by simp⟩
    refine List.mem_append_right _ (List.mem_singleton.mpr ?_)
    rw [h.ground]
    rfl

/-- A further look at a search is made of the steps of its query. -/
theorem again (h : Carries t s) (ticket : Nat) :
    ∃ actions, Carries (t.run actions) (s.call (.again ticket)) := by
  show ∃ actions, Carries (t.run actions) (match s.searches ticket with
    | none => s
    | some search => s.hold ticket (s.engine.again search))
  rcases hs : s.searches ticket with _ | search
  · exact ⟨[], h⟩
  · obtain ⟨query, hc⟩ := h.searches ticket search hs
    cases search with
    | running run =>
      obtain ⟨hf, hwaits⟩ := hc
      rcases hagain : run.again s.engine.sources s.engine.now with ⟨run', sources⟩
      have hr := reaches_again h.ticketed h.ground hf rfl hwaits hagain
      simp only [Engine.again_eq hagain]
      exact h.hold hf rfl (Engine.proceed_pending _ run' false) hr
    | published | superseded | broken =>
      -- A search that has ended stays as it is.
      refine ⟨[], h.ticketed, h.ground, h.pending, ?_⟩
      intro other search' hs'
      simp only [Session.hold, Engine.again] at hs'
      by_cases hother : other = ticket
      · rw [if_pos hother] at hs'
        obtain rfl := Option.some.inj hs'
        rw [hother]
        exact ⟨query, hc⟩
      · rw [if_neg hother] at hs'
        exact h.searches other search' hs'

/-- A submission whose debounce time is over is begun if its ticket is still the last one. -/
theorem poll_debouncing (h : Carries t s) {ticket : Nat} {query : String} {due : Nat}
    (hp : s.engine.pending = some (.debouncing ticket query due)) :
    ∃ actions, Carries (t.run actions) { s with engine := s.engine.poll } := by
  have hf := (h.pending _ hp).1
  have hact := act_advance h.ticketed hf
  unfold proceed at hact
  simp only [Submission.flight, h.ground] at hf hact
  by_cases hdue : s.engine.now < due
  · have hpoll : s.engine.poll = s.engine := by
      unfold Engine.poll
      simp only [hp, if_pos hdue]
    rw [hpoll]
    exact ⟨[], h⟩
  · simp only [if_neg hdue] at hact
    cases hcurrent : s.engine.board.isCurrent ticket with
    | true =>
      rw [if_pos hcurrent] at hact
      -- The engine begins the run at once; in the traffic that is the step after the timer.
      rcases hbegin : Run.begin s.engine.sources s.engine.now ticket query with ⟨run, sources⟩
      have hpoll : s.engine.poll = { s.engine with sources }.proceedPending run := by
        unfold Engine.poll
        simp only [hp, if_neg hdue, hcurrent, if_true, hbegin]
      have hmoved := h.ticketed.act (.advance ticket)
      rw [hact] at hmoved
      have hr : t.Reaches ticket ⟨query, true⟩ ({ s.engine with sources }.proceed run true) := by
        refine .of_act ?_
        rw [hact]
        exact reaches_begin hmoved h.ground (mem_moved t _ .admitted) rfl hbegin
      rw [hpoll]
      exact h.proceedPending hf rfl hr
    | false =>
      rw [if_neg (by rw [hcurrent]; exact Bool.false_ne_true)] at hact
      have hpoll : s.engine.poll = { s.engine with pending := none } := by
        unfold Engine.poll
        simp only [hp, if_neg hdue, hcurrent, Bool.false_eq_true, if_false]
      have hground : (t.advances ticket 1).toGround = s.engine.toGround := by
        show (t.act (.advance ticket)).toGround = _
        rw [hact]
        exact h.ground
      rw [hpoll]
      exact ⟨[.advance ticket], h.ticketed.advances ticket 1, hground, by simp,
        h.came_advances hf rfl 1⟩

/-- A look at what is pending is made of the steps of its query. -/
theorem poll (h : Carries t s) : ∃ actions, Carries (t.run actions) (s.call .poll) := by
  show ∃ actions, Carries (t.run actions) { s with engine := s.engine.poll }
  rcases hp : s.engine.pending with _ | (⟨ticket, query, due⟩ | run)
  · have hpoll : s.engine.poll = s.engine := by
      unfold Engine.poll
      simp only [hp]
    rw [hpoll]
    exact ⟨[], h⟩
  · exact h.poll_debouncing hp
  · obtain ⟨hf, hwaits⟩ := h.pending _ hp
    rcases hagain : run.again s.engine.sources s.engine.now with ⟨run', sources⟩
    have hpoll : s.engine.poll = { s.engine with sources }.proceedPending run' := by
      unfold Engine.poll
      simp only [hp, hagain]
    have hr := reaches_again h.ticketed h.ground hf rfl (hwaits run rfl) hagain
    rw [hpoll]
    exact h.proceedPending hf rfl hr

/-- What else is done leaves queries alone. -/
theorem of_same (h : Carries t s) {e : Engine} (hact : t'.flights = t.flights)
    (hreturned : t'.returned = t.returned) (hticketed : Ticketed t')
    (hground : t'.toGround = e.toGround) (hpending : e.pending = s.engine.pending) :
    Carries t' { s with engine := e } where
  ticketed := hticketed
  ground := hground
  pending := by
    intro p hp
    rw [hact]
    exact h.pending p (hpending ▸ hp)
  searches := by
    intro ticket search hs
    obtain ⟨query, hc⟩ := h.searches ticket search hs
    refine ⟨query, ?_⟩
    cases search with
    | running run => exact ⟨hact ▸ hc.1, hc.2⟩
    | published | superseded | broken => exact fun hsearched => hreturned ▸ hc hsearched

/-- **Whatever is done with an engine happens in a traffic.** -/
theorem call (h : Carries t s) (op : Session.Call) :
    ∃ actions, Carries (t.run actions) (s.call op) := by
  cases op with
  | search query => exact h.search query
  | again ticket => exact h.again ticket
  | submit query => exact h.submit query
  | poll => exact h.poll
  | receive =>
    refine ⟨[.receive], h.of_same rfl rfl (h.ticketed.act .receive) ?_ rfl⟩
    show { t.toGround with board := t.board.receive.2 } = s.engine.receive.2.toGround
    rw [h.ground]
    rfl
  | close =>
    refine ⟨[.close], h.of_same rfl rfl (h.ticketed.act .close) ?_ rfl⟩
    show { t.toGround with board := t.board.close } = s.engine.close.toGround
    rw [h.ground]
    rfl
  | wait ms =>
    refine ⟨[.wait ms], h.of_same rfl rfl (h.ticketed.act (.wait ms)) ?_ rfl⟩
    show { t.toGround with now := t.now + ms } =
      { s.engine.toGround with now := s.engine.now + ms }
    rw [h.ground]

/-- Any list of operations happens in a traffic. -/
theorem calls (h : Carries t s) (ops : List Session.Call) :
    ∃ actions, Carries (t.run actions) (s.calls ops) := by
  induction ops generalizing t s with
  | nil => exact ⟨[], h⟩
  | cons op ops ih =>
    obtain ⟨first, hfirst⟩ := h.call op
    obtain ⟨rest, hrest⟩ := ih hfirst
    refine ⟨first ++ rest, ?_⟩
    rw [run_append]
    exact hrest

end Carries

end Traffic

/-! ### Main theorem -/

namespace Session

variable (sources : Sources) (wallClock : Int)

/-- **Whatever is done with a new engine happens in a run**: there are actions after which the ground
is that of the engine, and every search that has ended has returned just that. -/
theorem carried (ops : List Call) : ∃ actions,
    ((Traffic.opened sources wallClock).run actions).Carries
      ((opened sources wallClock).calls ops) := by
  have hopened : (Traffic.opened sources wallClock).Carries (opened sources wallClock) :=
    ⟨Traffic.ticketed_opened sources wallClock, rfl, by simp [opened], by simp [opened]⟩
  exact hopened.calls ops

/-- The updates that an engine holds ready are for later and later queries. -/
theorem updates_increasing (ops : List Call) :
    (((opened sources wallClock).calls ops).engine.board.updates.map (·.ticket)).Pairwise
      (· < ·) := by
  obtain ⟨actions, h⟩ := carried sources wallClock ops
  rw [← h.ground]
  generalize ht : (Traffic.opened sources wallClock).run actions = t
  have hsent := (ht ▸ Traffic.mirrored_run sources wallClock actions : t.Mirrored).sent
  have hincreasing := (ht ▸ Traffic.accounted_run sources wallClock actions : t.Accounted).increasing
  have hannounced : t.announcements.Pairwise fun o o' => o.ticket < o'.ticket := by
    unfold Traffic.announcements
    exact List.pairwise_map.mpr (hincreasing.sublist List.filter_sublist)
  rw [← hsent, List.pairwise_append] at hannounced
  exact List.pairwise_map.mpr hannounced.2.1

/-- What is shown is at least as new as what any search has published. -/
theorem published_le_shown {ops : List Call} {ticket : Nat} {outcome : Outcome}
    (h : ((opened sources wallClock).calls ops).searches ticket = some (.published outcome)) :
    outcome.ticket = ticket ∧
      ∃ shown, ((opened sources wallClock).calls ops).engine.board.shown = some shown ∧
        ticket ≤ shown.ticket := by
  obtain ⟨actions, hcarries⟩ := carried sources wallClock ops
  have haccounted := Traffic.accounted_run sources wallClock actions
  obtain ⟨query, hreturned⟩ := hcarries.searches ticket _ h
  obtain ⟨p, hp, -, rfl, hticket⟩ := (haccounted.answers ticket outcome).mp (hreturned rfl)
  obtain ⟨last, hlast, hle⟩ := haccounted.le_last hp
  refine ⟨hticket, last.outcome, ?_, hticket ▸ hle⟩
  rw [← hcarries.ground, (Traffic.mirrored_run sources wallClock actions).shown, hlast]
  rfl

end Session

end Launcher
