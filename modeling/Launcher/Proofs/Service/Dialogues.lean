import Launcher.Proofs.Service.Handling

namespace Launcher

/-!
# Dialogues

Lines arrive, updates are written, and time passes, in any order. Which of them comes next is
decided by a scheduler that nothing is assumed about. The output mixes answers with updates, and the
aim is to say what its answers are without mentioning updates at all.

* `Turn` — what happens next. `Written` — an answer or an update.
* `Dialogue.run` — a service and all that was written after some turns.
* `Service.answers` — the answers alone, as if no update was ever written.
* `Dialogue.answers_take` — what one turn adds to the answers; an update changes only what was not
  yet received, and that has no bearing on later answers.
* `Dialogue.answers_run` — updates taken away, just these answers are written.
* `Service.length_answers`, `Dialogue.run_lasting` — as long as life times add up, each line is
  answered.
-/

/-! ### Turns -/

/-- What happens while no line is answered. -/
inductive Idle where
  /-- Some milliseconds pass. -/
  | wait (ms : Nat)
  /-- What is pending is looked at. -/
  | look
  /-- The wall clock shows another time. -/
  | clock (time : Int)

/-- What happens next. -/
inductive Turn where
  /-- A line has arrived. -/
  | line (line : List Char)
  /-- The first update that was not yet received is written. -/
  | pass
  /-- Somebody else receives all updates. -/
  | lose
  | idle (idle : Idle)

/-- The line that has arrived. -/
def Turn.line? : Turn → Option (List Char)
  | .line text => some text
  | _ => none

/-- The milliseconds that pass. -/
def Turn.wait? : Turn → Option Nat
  | .idle (.wait ms) => some ms
  | _ => none

/-- The lines that have arrived and are not blank. -/
def Turn.spoken (turns : List Turn) : List (List Char) :=
  (turns.filterMap Turn.line?).filter (!Text.isBlankText ·)

/-- A line counts unless it is blank. -/
theorem Turn.spoken_line (line : List Char) (turns : List Turn) :
    Turn.spoken (.line line :: turns) =
      if Text.isBlankText line then Turn.spoken turns else line :: Turn.spoken turns := by
  cases h : Text.isBlankText line <;> simp [Turn.spoken, Turn.line?, h]

/-- What is written. -/
inductive Written where
  | answer (response : Response)
  | update (outcome : Outcome)

/-- An update is written as a response. -/
def Written.response : Written → Response
  | .answer response => response
  | .update outcome => .ok (.ofOutcome outcome)

/-- The answer that is written, if it is no update. -/
def Written.answer? : Written → Option Response
  | .answer response => some response
  | .update _ => none

namespace Service

variable {s s' : Service}

/-- A service after something that is no request. -/
def idle (s : Service) : Idle → Service
  | .wait ms => { s with engine := s.engine.sleep ms }
  | .look => { s with engine := s.engine.poll }
  | .clock time => { s with engine := { s.engine with wallClock := time } }

/-- Services that differ in updates only still do so when something else has happened. -/
theorem Alike.idle (h : s.Alike s') (idle : Idle) : (s.idle idle).Alike (s'.idle idle) := by
  obtain ⟨updates, rfl⟩ := h
  have halike := s.engine.alike_holding updates
  cases idle with
  | wait ms => exact alike_of_engine (halike.sleep ms)
  | look => exact alike_of_engine halike.poll
  | clock time => exact ⟨updates, rfl⟩

/-- Nothing that happens between requests breaks a search off. -/
theorem idle_lasting {limit : Nat} (h : s.engine.Lasting limit) (idle : Idle) :
    (s.idle idle).engine.Lasting limit := by
  cases idle with
  | wait ms => exact (Engine.Lasting.keptWith limit).sleep h ms
  | look => exact h.poll
  | clock time => exact ⟨h.sources, h.pending⟩

/-- The answers to the lines that arrive in some turns, until one is not answered: each line is
answered by the service that the turns before it have left, and blank lines are skipped. -/
def answers (s : Service) : List Turn → List Response
  | [] => []
  | .line line :: turns =>
    if Text.isBlankText line then s.answers turns
    else
      match s.handleLine (String.ofList line) with
      | (some response, s) => response :: s.answers turns
      | (none, _) => []
  | .pass :: turns | .lose :: turns => s.answers turns
  | .idle idle :: turns => (s.idle idle).answers turns

/-- The answers do not depend on which updates were received. -/
theorem Alike.answers (h : s.Alike s') (turns : List Turn) :
    s'.answers turns = s.answers turns := by
  induction turns generalizing s s' with
  | nil => rfl
  | cons turn turns ih =>
    cases turn with
    | line line =>
      unfold Service.answers
      -- The answer is the same, and the services that it leaves differ in updates only.
      obtain ⟨updates, hanswer⟩ := h.handleLine (String.ofList line)
      rw [hanswer, ih h]
      rcases s.handleLine (String.ofList line) with ⟨_ | response, s⟩
      · rfl
      · dsimp only
        rw [ih (s.alike_holding updates)]
    | pass | lose => exact ih h
    | idle idle => exact ih (h.idle idle)

/-- As long as life times add up, there is one answer for each line that is not blank. -/
theorem length_answers {limit : Nat} (h : s.engine.Lasting limit) (turns : List Turn) :
    (s.answers turns).length = (Turn.spoken turns).length := by
  induction turns generalizing s with
  | nil => rfl
  | cons turn turns ih =>
    cases turn with
    | line line =>
      unfold answers
      rw [Turn.spoken_line]
      split
      · exact ih h
      · -- The line is answered, and what comes after it is a case of the induction again.
        obtain ⟨response, s', hanswer, hkept⟩ := handleLine_lasting h (String.ofList line)
        rw [hanswer]
        exact congrArg (· + 1) (ih hkept)
    | pass | lose => exact ih h
    | idle idle => exact ih (idle_lasting h idle)

end Service

/-! ### Dialogues -/

/-- A service, and what it has written. -/
structure Dialogue where
  service : Service
  written : List Written := []
  /-- A search has broken off, and nothing is answered any more. -/
  isBroken : Bool := false

namespace Dialogue

variable (d : Dialogue)

/-- Answers a line unless it is blank. -/
def hear (line : List Char) : Dialogue :=
  if Text.isBlankText line then d
  else
    match d.service.handleLine (String.ofList line) with
    | (some response, service) => { d with service, written := d.written ++ [.answer response] }
    | (none, service) => { d with service, isBroken := true }

/-- Writes the first update, if there is one. -/
def pass : Dialogue :=
  match d.service.engine.board.updates with
  | [] => d
  | outcome :: updates =>
    { d with service := d.service.holding updates, written := d.written ++ [.update outcome] }

/-- Takes a turn; a dialogue that has broken off stays as it is. -/
def take (turn : Turn) : Dialogue :=
  if d.isBroken then d
  else
    match turn with
    | .line line => d.hear line
    | .pass => d.pass
    | .lose => { d with service := d.service.holding [] }
    | .idle idle => { d with service := d.service.idle idle }

/-- Takes turns in order. -/
def run (turns : List Turn) : Dialogue :=
  turns.foldl take d

/-- Later turns are taken after earlier ones. -/
theorem run_append (turns turns' : List Turn) :
    d.run (turns ++ turns') = (d.run turns).run turns' :=
  List.foldl_append

/-- What was written, with the updates taken away. -/
def answers : List Response :=
  d.written.filterMap Written.answer?

variable {d}

/-- A dialogue that has broken off takes no turn any more. -/
theorem run_of_isBroken (h : d.isBroken = true) (turns : List Turn) : d.run turns = d := by
  have htake (turn : Turn) : d.take turn = d := if_pos h
  induction turns with
  | nil => rfl
  | cons turn turns ih =>
    unfold run
    rw [List.foldl_cons, htake]
    exact ih

/-- Any other dialogue takes its turn. -/
theorem take_of_not_broken (h : d.isBroken = false) (turn : Turn) :
    d.take turn = match turn with
      | .line line => d.hear line
      | .pass => d.pass
      | .lose => { d with service := d.service.holding [] }
      | .idle idle => { d with service := d.service.idle idle } :=
  if_neg (by rw [h]; exact Bool.false_ne_true)

/-- What a turn adds to the answers, and the answers that are still to come. -/
theorem answers_take (h : d.isBroken = false) (turn : Turn) (turns : List Turn) :
    ((d.take turn).isBroken = false ∧
      (d.take turn).answers ++ (d.take turn).service.answers turns =
        d.answers ++ d.service.answers (turn :: turns)) ∨
    ((d.take turn).isBroken = true ∧
      (d.take turn).answers = d.answers ++ d.service.answers (turn :: turns)) := by
  rw [take_of_not_broken h]
  cases turn with
  | line line =>
    simp only [hear, Service.answers]
    split
    · exact .inl ⟨h, rfl⟩
    · rcases d.service.handleLine (String.ofList line) with ⟨_ | response, s⟩
      · exact .inr ⟨rfl, (List.append_nil _).symm⟩
      · refine .inl ⟨h, ?_⟩
        simp [answers, Written.answer?]
  | pass =>
    refine .inl ?_
    dsimp only [pass, Service.answers]
    split
    next => exact ⟨h, rfl⟩
    next outcome updates _ =>
      -- An update is no answer, and the service has changed in its updates only.
      have hupdate : (d.written ++ [Written.update outcome]).filterMap Written.answer? =
          d.answers := by
        simp [answers, Written.answer?]
      have hservice := (d.service.alike_holding updates).answers turns
      exact ⟨h, congrArg₂ (· ++ ·) hupdate hservice⟩
  | lose =>
    have hservice := (d.service.alike_holding []).answers turns
    exact .inl ⟨h, congrArg (d.answers ++ ·) hservice⟩
  | idle idle => exact .inl ⟨h, rfl⟩

/-- **The answers of a dialogue**, whatever updates are written in between, are those to its lines
alone. -/
theorem answers_run (h : d.isBroken = false) (turns : List Turn) :
    (d.run turns).answers = d.answers ++ d.service.answers turns := by
  induction turns generalizing d with
  | nil => exact (List.append_nil _).symm
  | cons turn turns ih =>
    have hrun : d.run (turn :: turns) = (d.take turn).run turns := rfl
    rw [hrun]
    obtain ⟨hgoes, hadded⟩ | ⟨hbreaks, hadded⟩ := answers_take h turn turns
    · rw [ih hgoes, hadded]
    · rw [run_of_isBroken hbreaks, hadded]

/-! ### No line is left out -/

variable {limit : Nat}

/-- As long as life times add up, no turn breaks the dialogue off. -/
theorem take_lasting (h : d.isBroken = false) (hlasting : d.service.engine.Lasting limit)
    (turn : Turn) :
    (d.take turn).isBroken = false ∧ (d.take turn).service.engine.Lasting limit := by
  rw [take_of_not_broken h]
  cases turn with
  | line line =>
    dsimp only [hear]
    split
    · exact ⟨h, hlasting⟩
    · obtain ⟨response, s, hanswer, hkept⟩ :=
        Service.handleLine_lasting hlasting (String.ofList line)
      rw [hanswer]
      exact ⟨h, hkept⟩
  | pass =>
    dsimp only [pass]
    split
    next => exact ⟨h, hlasting⟩
    next => exact ⟨h, hlasting.sources, hlasting.pending⟩
  | lose => exact ⟨h, hlasting.sources, hlasting.pending⟩
  | idle idle => exact ⟨h, Service.idle_lasting hlasting idle⟩

/-- As long as life times add up, no dialogue breaks off. -/
theorem run_lasting (h : d.isBroken = false) (hlasting : d.service.engine.Lasting limit)
    (turns : List Turn) :
    (d.run turns).isBroken = false ∧ (d.run turns).service.engine.Lasting limit := by
  induction turns generalizing d with
  | nil => exact ⟨h, hlasting⟩
  | cons turn turns ih =>
    obtain ⟨hgoes, hkept⟩ := take_lasting h hlasting turn
    exact ih hgoes hkept

end Dialogue

end Launcher
