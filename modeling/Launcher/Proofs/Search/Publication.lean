import Launcher.Proofs.Search.Tickets

namespace Launcher.Traffic

/-!
# What is published is never older than what was

Queries are answered at the same time, and their runs may end in any order. Still the user should
never see an older query take the place of a newer one. The board guards that by tickets: an outcome
is published only while its ticket is the last one that was issued. Two accounts are kept along a
run of any actions, and the theorem is read off them.

* `Mirrored` — what is shown and what is sent are what was published.
* `Accounted` — a query that was published or whose caller got an answer is not on its way any more.
  So the ticket of what is published next is new, and since it is the last one, it is above all
  before it (`Accounted.published_lt`).
* `InOrder` — tickets of publications increase, and callers of searches learn of theirs.
* `published_in_order` — the publications of every run, whatever happens in between.
-/

variable {t t' : Traffic} {f : Flight}

/-! ### What is shown and sent -/

/-- The publications of submitted queries that somebody received updates of. -/
def announcements (t : Traffic) : List Outcome :=
  (t.publications.filter fun p => p.isSubmitted && p.isHeard).map (·.outcome)

/-- What is shown and what is sent are what was published. -/
structure Mirrored (t : Traffic) : Prop where
  shown : t.board.shown = t.publications.getLast?.map (·.outcome)
  /-- The ticket of what was published was the last one. -/
  current : ∀ p ∈ t.publications, p.latest = p.outcome.ticket
  sent : t.received ++ t.lost ++ t.board.updates = t.announcements
  heard : t.board.isOpen = true → t.lost = [] ∧ ∀ p ∈ t.publications, p.isHeard = true
  closed : t.board.isOpen = false → t.board.updates = []

namespace Mirrored

/-- Steps that touch neither what was published nor what is shown and sent. -/
theorem of_same (h : Mirrored t) (hpublications : t'.publications = t.publications)
    (hshown : t'.board.shown = t.board.shown) (hupdates : t'.board.updates = t.board.updates)
    (hopen : t'.board.isOpen = t.board.isOpen) (hreceived : t'.received = t.received)
    (hlost : t'.lost = t.lost) : Mirrored t' where
  shown := by rw [hshown, hpublications]; exact h.shown
  current := by rw [hpublications]; exact h.current
  sent := by
    unfold announcements
    rw [hreceived, hlost, hupdates, hpublications]
    exact h.sent
  heard := by rw [hopen, hlost, hpublications]; exact h.heard
  closed := by rw [hopen, hupdates]; exact h.closed

/-- One publication more is shown, and sent if it is to be sent. -/
theorem published (h : Mirrored t) {outcome : Outcome} (hcurrent : t.board.latest = outcome.ticket) :
    Mirrored (t.published f outcome) where
  shown := by
    show some outcome = (t.publications ++ [_]).getLast?.map _
    rw [List.getLast?_concat]
    rfl
  current := by
    intro p hp
    rcases List.mem_append.mp hp with hp | hp
    · exact h.current p hp
    · obtain rfl := List.mem_singleton.mp hp
      exact hcurrent
  sent := by
    -- The outcome is sent under the very condition under which it counts as an announcement.
    have hsent := h.sent
    unfold announcements at hsent ⊢
    show t.received ++ t.lost ++ (t.board.updates ++ _) = ((t.publications ++ [_]).filter _).map _
    rw [← List.append_assoc, hsent, List.filter_append, List.map_append]
    cases f.isSubmitted <;> cases t.board.isOpen <;> rfl
  heard := by
    intro hopen
    obtain ⟨hlost, hheard⟩ := h.heard hopen
    refine ⟨hlost, ?_⟩
    intro p hp
    rcases List.mem_append.mp hp with hp | hp
    · exact hheard p hp
    · obtain rfl := List.mem_singleton.mp hp
      exact hopen
  closed := by
    intro hclosed
    have hclosed : t.board.isOpen = false := hclosed
    show t.board.updates ++ (if f.isSubmitted && t.board.isOpen then [outcome] else []) = []
    rw [h.closed hclosed, hclosed, Bool.and_false]
    rfl

/-- Updates are received only while nothing is lost, so they are received in order. -/
theorem receive (h : Mirrored t) : Mirrored t.receive where
  shown := h.shown
  current := h.current
  sent := by
    have hsent := h.sent
    show t.received ++ t.board.updates ++ t.lost ++ [] = t.announcements
    rw [← hsent, List.append_nil]
    cases hopen : t.board.isOpen with
    | true => rw [(h.heard hopen).1, List.append_nil, List.append_nil]
    | false => rw [h.closed hopen, List.append_nil, List.append_nil]
  heard := h.heard
  closed := fun _ => rfl

/-- When nobody receives updates any more, those that were not received are lost. -/
theorem close (h : Mirrored t) : Mirrored t.close where
  shown := h.shown
  current := h.current
  sent := by
    show t.received ++ (t.lost ++ t.board.updates) ++ [] = t.announcements
    rw [← h.sent, List.append_nil, List.append_assoc]
  heard := fun hopen => absurd hopen Bool.false_ne_true
  closed := fun _ => rfl

/-- Each step keeps the board a mirror of the publications. -/
theorem of_step (h : Mirrored t) {a : Action} (hstep : Step t a t') : Mirrored t' := by
  cases hstep with
  | published f hf outcome hstage hcurrent => exact h.published hcurrent
  | received => exact h.receive
  | closed => exact h.close
  | _ => exact h.of_same rfl rfl rfl rfl rfl rfl

end Mirrored

/-- So it is after any actions. -/
theorem mirrored_run (sources : Sources) (wallClock : Int) (actions : List Action) :
    Mirrored ((opened sources wallClock).run actions) := by
  refine run_induction (fun _ _ _ h hstep => h.of_step hstep) ?_ actions
  refine ⟨rfl, ?_, rfl, ?_, fun _ => rfl⟩
  · simp [opened]
  · simp [opened]

/-! ### The order of publications -/

/-- The accounts of what was published and of what was returned to callers. -/
structure Accounted (t : Traffic) : Prop where
  ticketed : Ticketed t
  published : ∀ p ∈ t.publications, t.Over p.outcome.ticket ⟨p.outcome.query, p.isSubmitted⟩
  returned : ∀ r ∈ t.returned, ∃ query, t.Over r.1 ⟨query, false⟩
  increasing : t.publications.Pairwise fun p q => p.outcome.ticket < q.outcome.ticket
  answers : ∀ ticket outcome, (ticket, Search.published outcome) ∈ t.returned ↔
    ∃ p ∈ t.publications, p.isSubmitted = false ∧ p.outcome = outcome ∧ outcome.ticket = ticket
  once : (t.returned.map (·.1)).Nodup

namespace Accounted

/-- A query on its way has returned nothing yet. -/
theorem not_returned (h : Accounted t) (hf : t.flight? f.ticket = some f) :
    f.ticket ∉ t.returned.map (·.1) := by
  intro hmem
  obtain ⟨r, hr, hticket⟩ := List.mem_map.mp hmem
  obtain ⟨query, ho⟩ := h.returned r hr
  exact ho.2 f (flight?_eq_some hf).1 hticket.symm

/-- The ticket of what is published is above those of all earlier publications: they were issued, so
they are at most the last one, and they are not on their way any more. -/
theorem published_lt (h : Accounted t) (hf : t.flight? f.ticket = some f)
    (hcurrent : t.board.latest = f.ticket) {p : Publication} (hp : p ∈ t.publications) :
    p.outcome.ticket < f.ticket := by
  have hover := h.published p hp
  have hle := h.ticketed.asked_le hover.1
  have hne := hover.2 f (flight?_eq_some hf).1
  omega

/-- Steps that publish nothing and return nothing to callers. -/
theorem of_same (h : Accounted t) (hticketed : Ticketed t')
    (hover : ∀ ticket inquiry, t.Over ticket inquiry → t'.Over ticket inquiry)
    (hpublications : t'.publications = t.publications) (hreturned : t'.returned = t.returned) :
    Accounted t' where
  ticketed := hticketed
  published := by
    rw [hpublications]
    exact fun p hp => hover _ _ (h.published p hp)
  returned := by
    rw [hreturned]
    intro r hr
    obtain ⟨query, ho⟩ := h.returned r hr
    exact ⟨query, hover _ _ ho⟩
  increasing := by rw [hpublications]; exact h.increasing
  answers := by rw [hpublications, hreturned]; exact h.answers
  once := by rw [hreturned]; exact h.once

/-- What is returned when a query leaves the way is for a search, and that returns once. -/
theorem returned_of_landed (h : Accounted t) (hf : t.flight? f.ticket = some f) {search : Search}
    (hover : ∀ ticket inquiry, t.Over ticket inquiry → t'.Over ticket inquiry)
    (hflights : t'.flights = t.others f.ticket) (hasked : t'.asked = t.asked)
    (hreturned : t'.returned = (t.landed f search).returned) :
    (∀ r ∈ t'.returned, ∃ query, t'.Over r.1 ⟨query, false⟩) ∧ (t'.returned.map (·.1)).Nodup := by
  rw [hreturned]
  refine ⟨?_, ?_⟩
  · intro r hr
    rcases mem_returned_landed.mp hr with hr | ⟨hsearched, rfl⟩
    · obtain ⟨query, ho⟩ := h.returned r hr
      exact ⟨query, hover _ _ ho⟩
    · have hleft : t'.Over f.ticket f.toInquiry := h.ticketed.over hf hflights hasked
      refine ⟨f.query, ?_⟩
      rw [← hsearched]
      exact hleft
  · show ((t.returned ++ _).map Prod.fst).Nodup
    rw [List.map_append, List.nodup_append]
    refine ⟨h.once, ?_, ?_⟩
    · cases f.isSubmitted with
      | true => exact List.Pairwise.nil
      | false => exact List.pairwise_singleton _ _
    · intro ticket hticket new hnew heq
      have hnew : new = f.ticket := by
        cases hsubmitted : f.isSubmitted <;> simp [hsubmitted] at hnew
        exact hnew
      rw [heq, hnew] at hticket
      exact h.not_returned hf hticket

/-- A query that leaves without being published returns something that is no outcome. -/
theorem landed (h : Accounted t) (hf : t.flight? f.ticket = some f) {search : Search}
    (hsearch : search.published? = none) (hticketed : Ticketed (t.landed f search))
    (hover : ∀ ticket inquiry, t.Over ticket inquiry → (t.landed f search).Over ticket inquiry) :
    Accounted (t.landed f search) where
  ticketed := hticketed
  published := fun p hp => hover _ _ (h.published p hp)
  returned := (h.returned_of_landed hf hover rfl rfl rfl).1
  increasing := h.increasing
  answers := by
    intro ticket outcome
    rw [mem_returned_landed, h.answers]
    refine ⟨?_, .inl⟩
    rintro (hmem | ⟨-, heq⟩)
    · exact hmem
    · -- What is returned here is not an outcome.
      rw [← (Prod.mk.inj heq).2] at hsearch
      exact absurd hsearch (Option.some_ne_none outcome)
  once := (h.returned_of_landed hf hover rfl rfl rfl).2

/-- The query of the last ticket is published: its ticket is above all before it, and its caller
gets just this outcome. -/
theorem of_published (h : Accounted t) (hf : t.flight? f.ticket = some f) {outcome : Outcome}
    (hstage : f.stage = .concluded outcome) (hcurrent : t.board.latest = outcome.ticket)
    (hticketed : Ticketed (t.published f outcome))
    (hover : ∀ ticket inquiry, t.Over ticket inquiry →
      (t.published f outcome).Over ticket inquiry) :
    Accounted (t.published f outcome) := by
  obtain ⟨hticket, hquery⟩ := h.ticketed.fits_concluded hf hstage
  have hreturned := h.returned_of_landed hf hover rfl rfl rfl
  refine
    { ticketed := hticketed
      published := ?published
      returned := hreturned.1
      increasing := ?increasing
      answers := ?answers
      once := hreturned.2 }
  case published =>
    intro p hp
    rcases List.mem_append.mp hp with hp | hp
    · exact hover _ _ (h.published p hp)
    · obtain rfl := List.mem_singleton.mp hp
      have hleft : (t.published f outcome).Over f.ticket f.toInquiry :=
        h.ticketed.over hf rfl rfl
      simp only [hticket, hquery]
      exact hleft
  case increasing =>
    show (t.publications ++ [_]).Pairwise _
    rw [List.pairwise_append]
    refine ⟨h.increasing, List.pairwise_singleton _ _, ?_⟩
    intro p hp new hnew
    obtain rfl := List.mem_singleton.mp hnew
    have hlt := h.published_lt hf (hcurrent.trans hticket) hp
    rw [hticket]
    exact hlt
  case answers =>
    intro ticket o
    show (ticket, Search.published o) ∈ (t.landed f (.published outcome)).returned ↔
      ∃ p ∈ t.publications ++ [_], _
    rw [mem_returned_landed, h.answers]
    constructor
    · rintro (⟨p, hp, hrest⟩ | ⟨hsearched, heq⟩)
      · exact ⟨p, List.mem_append_left _ hp, hrest⟩
      · obtain ⟨rfl, hpublished⟩ := Prod.mk.inj heq
        obtain rfl := Search.published.inj hpublished
        exact ⟨_, List.mem_append_right _ (List.mem_singleton.mpr rfl), hsearched, rfl, hticket⟩
    · rintro ⟨p, hp, hsearched, rfl, rfl⟩
      rcases List.mem_append.mp hp with hp | hp
      · exact .inl ⟨p, hp, hsearched, rfl, rfl⟩
      · obtain rfl := List.mem_singleton.mp hp
        exact .inr ⟨hsearched, by rw [hticket]⟩

/-- Each step keeps the accounts. -/
theorem of_step (h : Accounted t) {a : Action} (hstep : Step t a t') : Accounted t' := by
  have hticketed := h.ticketed.of_step hstep
  have hover : ∀ ticket inquiry, t.Over ticket inquiry → t'.Over ticket inquiry :=
    fun _ _ ho => ho.of_step h.ticketed hstep
  cases hstep with
  | published f hf outcome hstage hcurrent => exact h.of_published hf hstage hcurrent hticketed hover
  | lapsed f hf | superseded f hf | broken f hf | withheld f hf =>
    exact h.landed hf rfl hticketed hover
  | _ => exact h.of_same hticketed hover rfl rfl

end Accounted

/-- So they are right after any actions. -/
theorem accounted_run (sources : Sources) (wallClock : Int) (actions : List Action) :
    Accounted ((opened sources wallClock).run actions) := by
  refine run_induction (fun _ _ _ h hstep => h.of_step hstep) ?_ actions
  refine ⟨ticketed_opened sources wallClock, ?_, ?_, .nil, ?_, .nil⟩
  · simp [opened]
  · simp [opened]
  · simp [opened]

/-- No publication is older than the one before, so none is newer than the last. -/
theorem Accounted.le_last (h : Accounted t) {p : Publication} (hp : p ∈ t.publications) :
    ∃ last, t.publications.getLast? = some last ∧ p.outcome.ticket ≤ last.outcome.ticket := by
  obtain ⟨earlier, last, heq⟩ : ∃ earlier last, t.publications = earlier ++ [last] :=
    ⟨_, _, (List.dropLast_concat_getLast (List.ne_nil_of_mem hp)).symm⟩
  refine ⟨last, by rw [heq, List.getLast?_concat], ?_⟩
  have hincreasing := h.increasing
  rw [heq, List.pairwise_append] at hincreasing
  rw [heq] at hp
  rcases List.mem_append.mp hp with hp | hp
  · exact Nat.le_of_lt (hincreasing.2.2 p hp last (List.mem_singleton.mpr rfl))
  · obtain rfl := List.mem_singleton.mp hp
    exact Nat.le_refl _

/-! ### Main theorem -/

/-- The publications of a run of some actions. -/
structure InOrder (actions : List Action) (t : Traffic) : Prop where
  /-- Their tickets increase, so none is published twice and none after a later one. -/
  increasing : (t.publications.map (·.outcome.ticket)).Pairwise (· < ·)
  /-- Each had the last ticket when it was checked. -/
  current : ∀ p ∈ t.publications, p.latest = p.outcome.ticket
  /-- What is shown is the last of them. -/
  shown : t.board.shown = t.publications.getLast?.map (·.outcome)
  /-- Each is for the query that was asked under its ticket, in the way in which it was asked. -/
  own : ∀ p ∈ t.publications, ∃ n, p.outcome.ticket = n + 1 ∧
    (actions.filterMap Action.inquiry?)[n]? = some ⟨p.outcome.query, p.isSubmitted⟩
  /-- What was sent is what was published of submitted queries while somebody received updates. -/
  sent : t.received ++ t.lost ++ t.board.updates =
    (t.publications.filter fun p => p.isSubmitted && p.isHeard).map (·.outcome)
  /-- While somebody receives updates, nothing was lost and nothing was not sent. -/
  heard : t.board.isOpen = true → t.lost = [] ∧ ∀ p ∈ t.publications, p.isHeard = true
  /-- An outcome is returned to the caller of a search exactly if that has published it. -/
  answers : ∀ ticket outcome, (ticket, Search.published outcome) ∈ t.returned ↔
    ∃ p ∈ t.publications, p.isSubmitted = false ∧ p.outcome = outcome ∧ outcome.ticket = ticket
  /-- No search returns twice. -/
  once : (t.returned.map (·.1)).Nodup

/-- **What is published is never older than what was.** This holds of every run of a new engine. -/
theorem published_in_order (sources : Sources) (wallClock : Int) (actions : List Action) :
    InOrder actions ((opened sources wallClock).run actions) := by
  have haccounted := accounted_run sources wallClock actions
  have hmirrored := mirrored_run sources wallClock actions
  refine
    { increasing := List.pairwise_map.mpr haccounted.increasing
      current := hmirrored.current
      shown := hmirrored.shown
      own := ?_
      sent := hmirrored.sent
      heard := hmirrored.heard
      answers := haccounted.answers
      once := haccounted.once }
  intro p hp
  obtain ⟨n, hn, hasked⟩ := (haccounted.published p hp).1
  rw [asked_run] at hasked
  exact ⟨n, hn, hasked⟩

/-- A search whose outcome was made before another query came does not publish it. -/
example (sources : Sources) (wallClock : Int) :
    (((opened sources wallClock).run [.search "", .advance 1, .advance 1, .search "", .advance 2,
      .advance 1, .advance 2, .advance 2]).publications.map (·.outcome.ticket)) = [2] := by
  cbv

end Launcher.Traffic
