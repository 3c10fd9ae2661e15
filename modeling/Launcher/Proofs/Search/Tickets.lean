import Launcher.Proofs.Search.Traffic

namespace Launcher

/-!
# Queries and their tickets

A ticket is a number that a query takes when it comes, one more than the last. Everything else about
the order of answers is said in terms of tickets, so it has to be known that a ticket names one
query, and that what is made of a query on its way still carries its ticket.

* `Traffic.Asked` — a query was asked under a ticket.
* `Traffic.Ticketed` — every query on its way was asked under its ticket, no two of them have the
  same one, and what is made of it carries it.
* `Traffic.Ticketed.of_step`, `Traffic.ticketed_run` — each step keeps this, so it holds at all
  times.
* `Traffic.Over` — a query is not on its way any more; it never comes back (`Traffic.Over.of_step`).
* `Traffic.asked_run` — the tickets of a run are issued to the queries of its actions, in order.
-/

/-- What is made of a query at a stage carries its ticket. -/
def Stage.Fits (ticket : Nat) (query : String) : Stage → Prop
  | debouncing _ | admitted => True
  | running run => run.ticket = ticket ∧ run.query = query
  | concluded outcome => outcome.ticket = ticket ∧ outcome.query = query

namespace Traffic

variable {t t' : Traffic} {f : Flight}

/-- A query was asked under a ticket. Tickets count from one on. -/
def Asked (t : Traffic) (ticket : Nat) (inquiry : Inquiry) : Prop :=
  ∃ n, ticket = n + 1 ∧ t.asked[n]? = some inquiry

/-- What holds of queries and their tickets. -/
structure Ticketed (t : Traffic) : Prop where
  /-- The tickets of all queries were issued. -/
  latest : t.board.latest = t.asked.length
  nodup : (t.flights.map (·.ticket)).Nodup
  asked : ∀ f ∈ t.flights, t.Asked f.ticket f.toInquiry
  fits : ∀ f ∈ t.flights, f.stage.Fits f.ticket f.query

/-- What was asked stays asked. -/
theorem Asked.of_append {ticket : Nat} {inquiry : Inquiry} (h : t.Asked ticket inquiry)
    {more : List Inquiry} (hasked : t'.asked = t.asked ++ more) : t'.Asked ticket inquiry := by
  obtain ⟨n, hn, ha⟩ := h
  have hlt : n < t.asked.length := (List.getElem?_eq_some_iff.mp ha).1
  refine ⟨n, hn, ?_⟩
  rw [hasked, List.getElem?_append_left hlt]
  exact ha

/-- A step that asks for nothing forgets nothing. -/
theorem Asked.of_same {ticket : Nat} {inquiry : Inquiry} (h : t.Asked ticket inquiry)
    (hasked : t'.asked = t.asked) : t'.Asked ticket inquiry :=
  h.of_append (hasked.trans (List.append_nil _).symm)

/-- The other queries are those with other tickets. -/
theorem mem_others {ticket : Nat} : f ∈ t.others ticket ↔ f ∈ t.flights ∧ f.ticket ≠ ticket := by
  simp only [others, List.mem_filter, bne_iff_ne]

/-- What is returned when a query leaves the way is returned to the caller of its search. -/
theorem mem_returned_landed {search : Search} {r : Nat × Search} :
    r ∈ (t.landed f search).returned ↔
      r ∈ t.returned ∨ (f.isSubmitted = false ∧ r = (f.ticket, search)) := by
  show r ∈ t.returned ++ _ ↔ _
  cases f.isSubmitted <;> simp

/-! ### Consequences -/

namespace Ticketed

/-- Every query has a ticket that was issued. -/
theorem asked_le (h : Ticketed t) {ticket : Nat} {inquiry : Inquiry} (ha : t.Asked ticket inquiry) :
    ticket ≤ t.board.latest := by
  obtain ⟨n, rfl, hasked⟩ := ha
  rw [h.latest]
  exact (List.getElem?_eq_some_iff.mp hasked).1

theorem ticket_le (h : Ticketed t) (hf : f ∈ t.flights) : f.ticket ≤ t.board.latest :=
  h.asked_le (h.asked f hf)

/-- A ticket leads to the one query on its way that has it. -/
theorem flight?_eq (h : Ticketed t) (hf : f ∈ t.flights) : t.flight? f.ticket = some f := by
  have hnodup := h.nodup
  unfold flight?
  generalize t.flights = flights at hf hnodup
  induction flights with
  | nil => exact absurd hf List.not_mem_nil
  | cons g rest ih =>
    rw [List.map_cons, List.nodup_cons] at hnodup
    rcases List.mem_cons.mp hf with rfl | hrest
    · exact List.find?_cons_of_pos (beq_self_eq_true f.ticket)
    · have hne : g.ticket ≠ f.ticket := by
        intro heq
        exact hnodup.1 (heq ▸ List.mem_map_of_mem hrest)
      rw [List.find?_cons_of_neg (by simpa using hne)]
      exact ih hrest hnodup.2

/-! ### Steps -/

/-- Steps that leave the queries alone. -/
theorem of_same (h : Ticketed t) (hflights : t'.flights = t.flights) (hasked : t'.asked = t.asked)
    (hlatest : t'.board.latest = t.board.latest) : Ticketed t' where
  latest := by rw [hlatest, hasked, h.latest]
  nodup := by rw [hflights]; exact h.nodup
  asked := by
    intro f hf
    rw [hflights] at hf
    exact (h.asked f hf).of_same hasked
  fits := by rw [hflights]; exact h.fits

/-- A query that comes is the only one with its ticket, as that is above all others. -/
theorem entered (h : Ticketed t) {inquiry : Inquiry} {stage : Stage}
    (hfits : stage.Fits (t.board.latest + 1) inquiry.query) :
    Ticketed (t.entered inquiry stage) where
  latest := by
    show t.board.latest + 1 = (t.asked ++ [inquiry]).length
    rw [List.length_append, h.latest]
    rfl
  nodup := by
    show ((t.flights ++ [_]).map Flight.ticket).Nodup
    rw [List.map_append, List.nodup_append]
    refine ⟨h.nodup, List.pairwise_singleton _ _, ?_⟩
    intro ticket hticket new hnew
    obtain ⟨f, hf, rfl⟩ := List.mem_map.mp hticket
    rw [List.map_singleton, List.mem_singleton] at hnew
    have hle := h.ticket_le hf
    have hnew : new = t.board.latest + 1 := hnew
    omega
  asked := by
    intro f hf
    rcases List.mem_append.mp hf with hf | hf
    · exact (h.asked f hf).of_append rfl
    · obtain rfl := List.mem_singleton.mp hf
      refine ⟨t.board.latest, rfl, ?_⟩
      show (t.asked ++ [inquiry])[t.board.latest]? = _
      rw [h.latest, List.getElem?_concat_length]
  fits := by
    intro f hf
    rcases List.mem_append.mp hf with hf | hf
    · exact h.fits f hf
    · obtain rfl := List.mem_singleton.mp hf
      exact hfits

/-- A query leaves, and the others stay as they are. -/
theorem of_others (h : Ticketed t) {ticket : Nat} (hflights : t'.flights = t.others ticket)
    (hasked : t'.asked = t.asked) (hlatest : t'.board.latest = t.board.latest) : Ticketed t' where
  latest := by rw [hlatest, hasked, h.latest]
  nodup := by
    rw [hflights]
    exact h.nodup.sublist (List.filter_sublist.map _)
  asked := by
    intro f hf
    rw [hflights] at hf
    exact (h.asked f (mem_others.mp hf).1).of_same hasked
  fits := by
    intro f hf
    rw [hflights] at hf
    exact h.fits f (mem_others.mp hf).1

/-- A query goes on to a stage at which what is made of it carries its ticket. -/
theorem moved (h : Ticketed t) (hf : t.flight? f.ticket = some f) {stage : Stage}
    (hfits : stage.Fits f.ticket f.query) : Ticketed (t.moved f stage) := by
  have hrest : Ticketed (t.without f.ticket) := h.of_others rfl rfl rfl
  refine
    { latest := h.latest
      nodup := ?nodup
      asked := ?asked
      fits := ?fits }
  case nodup =>
    show ((t.others f.ticket ++ [_]).map Flight.ticket).Nodup
    rw [List.map_append, List.nodup_append]
    refine ⟨hrest.nodup, List.pairwise_singleton _ _, ?_⟩
    intro ticket hticket same hsame
    obtain ⟨g, hg, rfl⟩ := List.mem_map.mp hticket
    rw [List.map_singleton, List.mem_singleton] at hsame
    rw [hsame]
    exact (mem_others.mp hg).2
  case asked =>
    intro g hg
    rcases List.mem_append.mp hg with hg | hg
    · exact h.asked g (mem_others.mp hg).1
    · obtain rfl := List.mem_singleton.mp hg
      exact h.asked f (flight?_eq_some hf).1
  case fits =>
    intro g hg
    rcases List.mem_append.mp hg with hg | hg
    · exact h.fits g (mem_others.mp hg).1
    · obtain rfl := List.mem_singleton.mp hg
      exact hfits

/-- The outcome that a query has come to carries its ticket and is for it. -/
theorem fits_concluded (h : Ticketed t) (hf : t.flight? f.ticket = some f) {outcome : Outcome}
    (hstage : f.stage = .concluded outcome) :
    outcome.ticket = f.ticket ∧ outcome.query = f.query := by
  have hfits := h.fits f (flight?_eq_some hf).1
  rw [hstage] at hfits
  exact hfits

/-- The run to which a query has come carries its ticket and is for it. -/
theorem fits_running (h : Ticketed t) (hf : t.flight? f.ticket = some f) {run : Run}
    (hstage : f.stage = .running run) : run.ticket = f.ticket ∧ run.query = f.query := by
  have hfits := h.fits f (flight?_eq_some hf).1
  rw [hstage] at hfits
  exact hfits

/-- Each step keeps queries and tickets together. -/
theorem of_step (h : Ticketed t) {a : Action} (hstep : Step t a t') : Ticketed t' := by
  cases hstep with
  | submitted query | searched query => exact h.entered trivial
  | matured f hf => exact h.moved hf trivial
  | begun f hf hstage run sources hbegin =>
    have hsame : Ticketed { t with sources } := h.of_same rfl rfl rfl
    -- A run carries the ticket and the query for which it was begun, and keeps them at every look.
    have hfits : run.ticket = f.ticket ∧ run.query = f.query := by
      obtain rfl : _ = run := congrArg Prod.fst hbegin
      exact ⟨Run.begin_ticket _ _ _ _, Run.begin_query _ _ _ _⟩
    exact hsame.moved hf hfits
  | looked f hf run hstage hwaits run' sources hagain =>
    have hsame : Ticketed { t with sources } := h.of_same rfl rfl rfl
    have hfits := h.fits_running hf hstage
    obtain rfl : _ = run' := congrArg Prod.fst hagain
    exact hsame.moved hf hfits
  | concluded f hf run hstage => exact h.moved hf (h.fits_running hf hstage)
  | lapsed | superseded | broken | withheld | published | aborted | left =>
    exact h.of_others rfl rfl rfl
  | received | closed | waited | changed => exact h.of_same rfl rfl rfl

end Ticketed

theorem ticketed_opened (sources : Sources) (wallClock : Int) :
    Ticketed (opened sources wallClock) where
  latest := rfl
  nodup := List.nodup_nil
  asked := by simp [opened]
  fits := by simp [opened]

/-- Queries and tickets belong together after any actions. -/
theorem ticketed_run (sources : Sources) (wallClock : Int) (actions : List Action) :
    Ticketed ((opened sources wallClock).run actions) :=
  run_induction (fun _ _ _ h hstep => h.of_step hstep) (ticketed_opened sources wallClock) actions

/-! ### Queries that are over -/

/-- A query was asked under a ticket, and is not on its way any more. -/
def Over (t : Traffic) (ticket : Nat) (inquiry : Inquiry) : Prop :=
  t.Asked ticket inquiry ∧ ∀ f ∈ t.flights, f.ticket ≠ ticket

/-- A query that leaves the way is over. -/
theorem Ticketed.over (h : Ticketed t) (hf : t.flight? f.ticket = some f)
    (hflights : t'.flights = t.others f.ticket) (hasked : t'.asked = t.asked) :
    t'.Over f.ticket f.toInquiry := by
  refine ⟨(h.asked f (flight?_eq_some hf).1).of_same hasked, ?_⟩
  intro g hg
  rw [hflights] at hg
  exact (mem_others.mp hg).2

/-- A query is on its way already, or it takes the next ticket. -/
theorem Step.flights {a : Action} (hstep : Step t a t') (hf : f ∈ t'.flights) :
    (∃ g ∈ t.flights, g.ticket = f.ticket) ∨ f.ticket = t.board.latest + 1 := by
  have hold {ticket : Nat} (hf : f ∈ t.others ticket) : ∃ g ∈ t.flights, g.ticket = f.ticket :=
    ⟨f, (mem_others.mp hf).1, rfl⟩
  -- A query that goes on changes its stage, not its ticket.
  have hmoved {g : Flight} (hg : t.flight? g.ticket = some g) {stage : Stage}
      (hf : f ∈ t.others g.ticket ++ [{ g with stage }]) :
      ∃ g ∈ t.flights, g.ticket = f.ticket := by
    rcases List.mem_append.mp hf with hf | hf
    · exact hold hf
    · obtain rfl := List.mem_singleton.mp hf
      exact ⟨g, (flight?_eq_some hg).1, rfl⟩
  cases hstep with
  | submitted | searched =>
    rcases List.mem_append.mp hf with hf | hf
    · exact .inl ⟨f, hf, rfl⟩
    · obtain rfl := List.mem_singleton.mp hf
      exact .inr rfl
  | matured g hg | begun g hg | looked g hg | concluded g hg => exact .inl (hmoved hg hf)
  | lapsed | superseded | broken | withheld | published | aborted | left => exact .inl (hold hf)
  | received | closed | waited | changed => exact .inl ⟨f, hf, rfl⟩

/-! ### Queries and actions -/

/-- What an action asks for takes the next ticket; other actions ask for nothing. -/
theorem Step.asked {a : Action} (hstep : Step t a t') :
    t'.asked = t.asked ++ a.inquiry?.toList := by
  cases hstep with
  | submitted | searched => rfl
  | _ => exact (List.append_nil _).symm

/-- What is over stays over. -/
theorem Over.of_step {ticket : Nat} {inquiry : Inquiry} (ho : t.Over ticket inquiry)
    (h : Ticketed t) {a : Action} (hstep : Step t a t') : t'.Over ticket inquiry := by
  refine ⟨ho.1.of_append hstep.asked, ?_⟩
  intro f hf
  -- The next ticket is above all that were issued.
  rcases hstep.flights hf with ⟨g, hg, hticket⟩ | hnew
  · rw [← hticket]
    exact ho.2 g hg
  · have hle := h.asked_le ho.1
    omega

/-- So it is for every action, whether it changes anything or not. -/
theorem act_asked (t : Traffic) (a : Action) :
    (t.act a).asked = t.asked ++ a.inquiry?.toList := by
  cases a with
  | submit query => exact (Step.submitted query).asked
  | search query => exact (Step.searched query).asked
  | _ =>
    rcases t.act_cases _ with heq | hstep
    · rw [heq]
      exact (List.append_nil _).symm
    · exact hstep.asked

/-- The queries that were asked in a run are those of its actions, in their order. -/
theorem asked_run (t : Traffic) (actions : List Action) :
    (t.run actions).asked = t.asked ++ actions.filterMap Action.inquiry? := by
  induction actions generalizing t with
  | nil => exact (List.append_nil _).symm
  | cons a actions ih =>
    rw [run_cons, ih, act_asked, List.append_assoc, List.filterMap_cons]
    cases a.inquiry? <;> rfl

end Traffic

end Launcher
