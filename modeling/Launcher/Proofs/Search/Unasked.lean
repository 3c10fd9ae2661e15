import Launcher.Proofs.Search.Frame

namespace Launcher

/-!
# An engine that is asked nothing

Between two requests of a client time passes, searches and the pending submission are looked at, and
updates are received, but no query comes. What can be shown at the next request is then still what
was shown at the last one, or the outcome of the last query; and at most one update was sent.

* `Engine.Unasked` — what can have come of an engine since some time at which the last query came.
* `Engine.Unasked.proceed`, `Engine.Unasked.proceedPending` — a run goes on: that of a search
  publishes without an update, that of a submission with one.
* `Engine.Unasked.again`, `Engine.Unasked.poll` — a look at what is under way.
* `Engine.Unasked.keptWith` — so it is while time passes, however often there are such looks.
* `Engine.Unasked.receive` — updates are received.

What is published then is the outcome of the last query, and it is sent once at the most.
-/

/-- The ticket of a submission. -/
def Submission.ticket : Submission → Nat
  | debouncing ticket _ _ => ticket
  | running run => run.ticket

/-- The ticket of a search that is under way. -/
def Search.ticket? : Search → Option Nat
  | running run => some run.ticket
  | published _ | superseded | broken => none

namespace Engine

/-- The ticket of the submission that is pending. -/
def pendingTicket? (e : Engine) : Option Nat :=
  e.pending.map (·.ticket)

/-- The ticket of what is pending is that of the submission. -/
theorem pendingTicket?_of_some {e : Engine} {p : Submission} (h : e.pending = some p) :
    e.pendingTicket? = some p.ticket := by
  rw [pendingTicket?, h]
  rfl

/-- What has come of an engine since some time, while nothing was asked and some updates were
received. The tickets are those of the queries that were under way at that time. -/
structure Unasked (tickets : List Nat) (start : Engine) (received : List Outcome) (e : Engine) :
    Prop where
  latest : e.board.latest = start.board.latest
  /-- What was pending still is, or nothing is. -/
  pending : e.pendingTicket? = start.pendingTicket? ∨ e.pendingTicket? = none
  /-- The same is shown, or the outcome of the last query. -/
  shown : e.board.shown = start.board.shown ∨
    ∃ o, e.board.shown = some o ∧ o.ticket = start.board.latest ∧ o.ticket ∈ tickets
  /-- No update was sent, or that of what was pending and is no more. -/
  sent : ∃ sent, received ++ e.board.updates = start.board.updates ++ sent ∧
    (sent = [] ∨ e.pendingTicket? = none ∧
      ∃ o, sent = [o] ∧ o.ticket = start.board.latest ∧ start.pendingTicket? = some o.ticket)

namespace Unasked

variable {tickets : List Nat} {start e e' : Engine} {received : List Outcome} {r : Run}

/-- Nothing has come of an engine yet at the time from which one counts. -/
theorem refl (tickets : List Nat) (e : Engine) : Unasked tickets e [] e where
  latest := rfl
  pending := .inl rfl
  shown := .inl rfl
  sent := ⟨[], (List.append_nil _).symm, .inl rfl⟩

/-- The publications are the same, and what is pending is, or has been dropped. -/
theorem of_same (h : Unasked tickets start received e) (hboard : e'.board = e.board)
    (hpending : e'.pendingTicket? = e.pendingTicket? ∨ e'.pendingTicket? = none) :
    Unasked tickets start received e' where
  latest := by rw [hboard]; exact h.latest
  pending := by
    obtain hpending | hnone := hpending
    · rw [hpending]
      exact h.pending
    · exact .inr hnone
  shown := by rw [hboard]; exact h.shown
  sent := by
    obtain ⟨sent, hsent, hcases⟩ := h.sent
    refine ⟨sent, by rw [hboard]; exact hsent, ?_⟩
    obtain hempty | ⟨hdropped, ho⟩ := hcases
    · exact .inl hempty
    · exact .inr ⟨hpending.elim (·.trans hdropped) id, ho⟩

/-! ### Searches -/

/-- A search publishes its outcome without an update. -/
theorem proceed (h : Unasked tickets start received e) (hr : r.ticket ∈ tickets) :
    Unasked tickets start received (e.proceed r false).2 ∧
      ∀ t ∈ (e.proceed r false).1.ticket?, t ∈ tickets := by
  rcases e.proceed_cases r false with
    ⟨-, hrun⟩ | ⟨-, hrun⟩ | ⟨-, hrun⟩ | ⟨o, hticket, hcurrent, hrun⟩ <;> rw [hrun]
  · exact ⟨h, by rintro t ⟨⟩; exact hr⟩
  · exact ⟨h, nofun⟩
  · exact ⟨h, nofun⟩
  · have hlatest : o.ticket = start.board.latest := (hticket.trans hcurrent.symm).trans h.latest
    have hshown : o.ticket ∈ tickets := hticket ▸ hr
    have hupdates : (e.board.posted o false).updates = e.board.updates := List.append_nil _
    exact ⟨{
      latest := h.latest
      pending := h.pending
      shown := .inr ⟨o, rfl, hlatest, hshown⟩
      sent := by rw [hupdates]; exact h.sent }, nofun⟩

/-- A further look at a search that was under way at that time. -/
theorem again (h : Unasked tickets start received e) {search : Search}
    (hsearch : ∀ t ∈ search.ticket?, t ∈ tickets) :
    Unasked tickets start received (e.again search).2 ∧
      ∀ t ∈ (e.again search).1.ticket?, t ∈ tickets := by
  cases search with
  | running run =>
    have hrun : run.ticket ∈ tickets := hsearch run.ticket rfl
    rcases hagain : run.again e.sources e.now with ⟨run', sources⟩
    have hticket : run'.ticket = run.ticket := (congrArg (·.1.ticket) hagain).symm
    have hsame : Unasked tickets start received { e with sources } := h.of_same rfl (.inl rfl)
    rw [again_eq hagain]
    exact hsame.proceed (hticket ▸ hrun)
  | published | superseded | broken => exact ⟨h, hsearch⟩

/-! ### Submissions -/

/-- What is pending publishes its outcome with an update, and is pending no more. -/
theorem proceedPending (h : Unasked tickets start received e)
    (hpending : e.pendingTicket? = some r.ticket) (hr : r.ticket ∈ tickets) :
    Unasked tickets start received (e.proceedPending r) := by
  rcases e.proceedPending_cases r with ⟨-, hrun⟩ | hrun | ⟨o, hticket, hcurrent, hrun⟩ <;> rw [hrun]
  · exact h.of_same rfl (.inl hpending.symm)
  · exact h.of_same rfl (.inr rfl)
  · have hlatest : o.ticket = start.board.latest := (hticket.trans hcurrent.symm).trans h.latest
    have hsome : e.pendingTicket? ≠ none := by
      rw [hpending]
      exact nofun
    have hstart : start.pendingTicket? = some o.ticket := by
      obtain hsame | hdropped := h.pending
      · rw [← hsame, hpending, hticket]
      · exact absurd hdropped hsome
    -- As it was still pending, no update was sent before.
    have hnothing : received ++ e.board.updates = start.board.updates := by
      obtain ⟨sent, hsent, rfl | ⟨hdropped, -⟩⟩ := h.sent
      · rw [hsent, List.append_nil]
      · exact absurd hdropped hsome
    exact {
      latest := h.latest
      pending := .inr rfl
      shown := .inr ⟨o, rfl, hlatest, hticket ▸ hr⟩
      sent := by
        show ∃ sent,
          received ++ (e.board.updates ++ if true && e.board.isOpen then [o] else []) = _ ∧ _
        rw [← List.append_assoc, hnothing]
        cases e.board.isOpen with
        | false => exact ⟨[], rfl, .inl rfl⟩
        | true => exact ⟨[o], rfl, .inr ⟨rfl, o, rfl, hlatest, hstart⟩⟩ }

/-- A look at what is pending, which was pending at that time. -/
theorem poll (h : Unasked tickets start received e)
    (htickets : ∀ t ∈ start.pendingTicket?, t ∈ tickets) :
    Unasked tickets start received e.poll := by
  have hmem : ∀ t ∈ e.pendingTicket?, t ∈ tickets := by
    intro t ht
    obtain hsame | hdropped := h.pending
    · exact htickets t (hsame ▸ ht)
    · rw [hdropped] at ht
      exact nomatch ht
  rcases e.poll_cases with hpoll | hpoll |
    ⟨ticket, query, due, run, sources, hpending, hbegin, hpoll⟩ |
    ⟨run, run', sources, hpending, hagain, hpoll⟩ <;> rw [hpoll]
  · exact h
  · exact h.of_same rfl (.inr rfl)
  · have hticket : e.pendingTicket? = some run.ticket := by
      rw [pendingTicket?_of_some hpending, ← Run.begin_ticket e.sources e.now ticket query, hbegin]
      rfl
    have hsame : Unasked tickets start received { e with sources } := h.of_same rfl (.inl rfl)
    exact hsame.proceedPending hticket (hmem run.ticket hticket)
  · have hticket : e.pendingTicket? = some run'.ticket := by
      rw [pendingTicket?_of_some hpending]
      exact congrArg (fun looked => some looked.1.ticket) hagain
    have hsame : Unasked tickets start received { e with sources } := h.of_same rfl (.inl rfl)
    exact hsame.proceedPending hticket (hmem run'.ticket hticket)

/-- Whatever happens while one waits for searches, nothing else comes of the engine. -/
theorem keptWith (htickets : ∀ t ∈ start.pendingTicket?, t ∈ tickets) :
    KeptWith (Unasked tickets start received) fun s => ∀ t ∈ s.ticket?, t ∈ tickets where
  wait _ _ h := h.of_same rfl (.inl rfl)
  again _ _ h hsearch := h.again hsearch
  poll _ h := h.poll htickets

/-! ### Updates -/

/-- The updates that were sent are received, those of that time before the one that may have come
since. -/
theorem receive (h : Unasked tickets start received e) :
    Unasked tickets start (received ++ e.receive.1) e.receive.2 where
  latest := h.latest
  pending := h.pending
  shown := h.shown
  sent := by
    obtain ⟨sent, hsent, hcases⟩ := h.sent
    refine ⟨sent, ?_, hcases⟩
    show (received ++ e.board.updates) ++ [] = _
    rw [List.append_nil, hsent]

end Unasked

end Engine

end Launcher
