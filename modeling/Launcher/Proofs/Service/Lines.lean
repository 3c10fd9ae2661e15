import Launcher.Proofs.Json.OneLine
import Launcher.Proofs.Service.Dialogues
import Launcher.Proofs.Text.Pieces
import Launcher.Proofs.Wire.Messages
import Launcher.Service.Setup

namespace Launcher

/-!
# One line in, one line out

A client writes requests as lines and reads responses as lines. What it reads is told apart by line
feeds alone, so no response may hold one. What it writes arrives in parts that need not end where
lines do, with pauses between them, in which updates are written as well. All of that is brought
back to a dialogue, in which whole lines are heard and nothing is left to chance of arrival.

* `Response.lineFeed_not_mem_text`, `Dialogue.lines_output` — each response stands on a line of its
  own.
* `Serving.linesOf` — the lines of a text.
* `Serving.Mirrors` — a serving has come to the same as a dialogue.
* `Serving.Goes` — what a serving does in the course of a text and of some pauses, as turns of the
  dialogue. It composes (`Goes.trans`), so parts are proved one by one: a character, a pause.
* `Serving.run_mirrors` — serving an input is a dialogue on the lines of the input.
* `Service.answers_line_by_line` — as long as life times add up, each line that is not blank is
  answered on a line.

A search breaks off when the life times of its rates do not add up, and nothing is answered from
then on (`Service.unanswered_with_life_times`).
-/

/-! ### Output -/

/-- No response breaks its line. -/
theorem Response.lineFeed_not_mem_text (r : Response) : '\n' ∉ r.text.toList := by
  unfold Response.text Json.Value.compact
  rw [String.toList_ofList]
  exact Json.lineFeed_not_mem_chars _

namespace Dialogue

/-- The text that was written, with a line feed after each response. -/
def output (d : Dialogue) : List Char :=
  (d.written.map (·.response.text.toList)).flatMap (· ++ ['\n'])

/-- The lines of the output are the texts of what was written. -/
theorem lines_output (d : Dialogue) :
    Text.splitOn ['\n'] d.output = d.written.map (·.response.text.toList) ++ [[]] := by
  apply Text.splitOn_flatMap_append
  intro line hline
  obtain ⟨w, -, rfl⟩ := List.mem_map.mp hline
  exact Response.lineFeed_not_mem_text w.response

end Dialogue

/-! ### Input -/

/-- The text of a part of an input. -/
def Input.chars : Input → List Char
  | .text arrived => arrived.toList
  | .pause _ => []

/-- The milliseconds that pass. -/
def Input.pause? : Input → Option Nat
  | .text _ => none
  | .pause ms => some ms

namespace Serving

/-- The lines of a text: each of them but the last is ended by a line feed, with or without a return
character before it. -/
def linesOf (text : List Char) : List (List Char) :=
  let pieces := Text.splitOn ['\n'] text
  pieces.dropLast.map withoutReturn ++ pieces.getLast?.toList

/-- A text without a line feed is one line. -/
theorem linesOf_of_not_mem {line : List Char} (h : '\n' ∉ line) : linesOf line = [line] := by
  unfold linesOf
  rw [Text.splitOn_of_not_mem h]
  rfl

/-- A line feed ends a line. -/
theorem linesOf_append {line : List Char} (h : '\n' ∉ line) (rest : List Char) :
    linesOf (line ++ '\n' :: rest) = withoutReturn line :: linesOf rest := by
  have hpieces : Text.splitOn ['\n'] rest ≠ [] := Text.splitOn_ne_nil ['\n'] rest
  unfold linesOf
  rw [Text.splitOn_append h]
  obtain ⟨piece, pieces, hrest⟩ := List.exists_cons_of_ne_nil hpieces
  rw [hrest]
  rfl

/-- A serving has come to the same as a dialogue, and holds the beginning of a line. -/
structure Mirrors (v : Serving) (d : Dialogue) : Prop where
  service : v.service = d.service
  responses : v.responses = d.written.map Written.response
  isBroken : v.isBroken = d.isBroken
  line : '\n' ∉ v.line

end Serving

/-- All updates are passed one after the other. -/
theorem Dialogue.run_passes {d : Dialogue} (h : d.isBroken = false) {updates : List Outcome}
    (hupdates : d.service.engine.board.updates = updates) :
    d.run (List.replicate updates.length .pass) =
      { d with
        service := d.service.holding [], written := d.written ++ updates.map Written.update } := by
  induction updates generalizing d with
  | nil =>
    have hservice : d.service.holding [] = d.service := by
      unfold Service.holding Engine.holding
      rw [← hupdates]
    rw [List.map_nil, List.append_nil, hservice]
    rfl
  | cons outcome updates ih =>
    have hpass : d.take .pass =
        { d with
          service := d.service.holding updates, written := d.written ++ [.update outcome] } := by
      rw [take_of_not_broken h]
      dsimp only [pass]
      rw [hupdates]
    have hrest := ih (d := ⟨d.service.holding updates, d.written ++ [.update outcome], d.isBroken⟩)
      h rfl
    show (d.take .pass).run (List.replicate updates.length .pass) = _
    rw [hpass, hrest]
    show Dialogue.mk _ (d.written ++ [.update outcome] ++ updates.map Written.update) _ = _
    rw [List.append_assoc]
    rfl

namespace Serving

variable {v v' v'' : Serving} {d : Dialogue}

/-! ### Serving is a dialogue -/

/-- A serving goes on to another in the course of a text and of some pauses: each dialogue that it
mirrors goes on as well, with the lines that have ended in the text. -/
def Goes (v v' : Serving) (text : List Char) (pauses : List Nat) : Prop :=
  ∀ d, v.Mirrors d → ∃ turns, v'.Mirrors (d.run turns) ∧ turns.filterMap Turn.wait? = pauses ∧
    ∀ rest,
      linesOf (v.line ++ text ++ rest) = turns.filterMap Turn.line? ++ linesOf (v'.line ++ rest)

/-- Nothing happens in no time. -/
theorem Goes.refl (v : Serving) : v.Goes v [] [] := by
  intro d hd
  refine ⟨[], hd, rfl, fun rest => ?_⟩
  rw [List.append_nil]
  rfl

/-- One text after another, with their pauses in order. -/
theorem Goes.trans {text text' : List Char} {pauses pauses' : List Nat} (h : v.Goes v' text pauses)
    (h' : v'.Goes v'' text' pauses') : v.Goes v'' (text ++ text') (pauses ++ pauses') := by
  intro d hd
  obtain ⟨turns, hmirrors, rfl, hlines⟩ := h d hd
  obtain ⟨turns', hmirrors', rfl, hlines'⟩ := h' _ hmirrors
  refine ⟨turns ++ turns', d.run_append turns turns' ▸ hmirrors', List.filterMap_append,
    fun rest => ?_⟩
  calc linesOf (v.line ++ (text ++ text') ++ rest)
      = linesOf (v.line ++ text ++ (text' ++ rest)) := by simp only [List.append_assoc]
    _ = turns.filterMap Turn.line? ++ linesOf (v'.line ++ text' ++ rest) := by
        rw [hlines, List.append_assoc]
    _ = (turns ++ turns').filterMap Turn.line? ++ linesOf (v''.line ++ rest) := by
        rw [hlines', List.filterMap_append, List.append_assoc]

/-- An answer does not touch the line that has begun. -/
theorem line_answer (v : Serving) (line : List Char) : (v.answer line).line = v.line := by
  unfold answer
  split
  · rfl
  · split <;> rfl

/-- An answer is the turn of its line. -/
theorem Mirrors.answer (h : v.Mirrors d) (line : List Char) :
    (v.answer line).Mirrors (d.take (.line line)) := by
  unfold Serving.answer
  cases hbroken : d.isBroken with
  | true =>
    have htake : d.take (.line line) = d := if_pos hbroken
    rw [h.isBroken, hbroken, Bool.true_or, if_pos rfl, htake]
    exact h
  | false =>
    rw [h.isBroken, hbroken, Bool.false_or, h.service, Dialogue.take_of_not_broken hbroken]
    dsimp only [Dialogue.hear]
    split
    · exact h
    · rcases d.service.handleLine (String.ofList line) with ⟨_ | response, s⟩
      · exact ⟨rfl, h.responses, rfl, h.line⟩
      · refine ⟨rfl, ?_, hbroken.symm, h.line⟩
        simp [h.responses, Written.response]

/-- A line feed has the line before it answered, and any other character goes on with it. -/
theorem goes_feed (v : Serving) (c : Char) : v.Goes (v.feed c) [c] [] := by
  intro d hd
  unfold feed
  split
  next hc =>
    subst hc
    have hbegun : Mirrors { v with line := [] } d :=
      ⟨hd.service, hd.responses, hd.isBroken, List.not_mem_nil⟩
    refine ⟨[.line (withoutReturn v.line)], hbegun.answer _, rfl, fun rest => ?_⟩
    rw [line_answer, List.append_assoc, List.singleton_append, linesOf_append hd.line]
    rfl
  next hc =>
    have hline : '\n' ∉ v.line ++ [c] := by simp [hd.line, Ne.symm hc]
    exact ⟨[], ⟨hd.service, hd.responses, hd.isBroken, hline⟩, rfl, fun rest => rfl⟩

/-- A text is taken in character by character. -/
theorem goes_feedAll (v : Serving) (text : List Char) : v.Goes (text.foldl feed v) text [] := by
  induction text generalizing v with
  | nil => exact Goes.refl v
  | cons c text ih => exact (v.goes_feed c).trans (ih (v.feed c))

/-- What a pause does while nothing has broken off. -/
theorem pause_of_not_broken (h : v.isBroken = false) (ms : Nat) :
    v.pause ms = { v with
      service := (v.service.idle (.wait ms)).holding []
      responses := v.responses ++
        if v.hasUpdates then
          ((v.service.idle (.wait ms)).engine.board.updates.map Written.update).map
            Written.response
        else [] } := by
  unfold pause
  rw [h, if_neg Bool.false_ne_true, List.map_map]
  rfl

/-- A pause is some time, after which all updates are passed, or lost. -/
theorem goes_pause (v : Serving) (ms : Nat) : v.Goes (v.pause ms) [] [ms] := by
  intro d hd
  cases hbroken : d.isBroken with
  | true =>
    -- Neither of them takes notice of anything any more.
    have hpause : v.pause ms = v := if_pos (hd.isBroken.trans hbroken)
    have hrun : d.run [.idle (.wait ms)] = d := Dialogue.run_of_isBroken hbroken _
    refine ⟨[.idle (.wait ms)], ?_, rfl, fun rest => ?_⟩
    · rw [hpause, hrun]
      exact hd
    · rw [hpause, List.append_nil]
      rfl
  | false =>
    have hwait (turns : List Turn) : d.run (.idle (.wait ms) :: turns) =
        Dialogue.run { d with service := d.service.idle (.wait ms) } turns := by
      show (d.take (.idle (.wait ms))).run turns = _
      rw [Dialogue.take_of_not_broken hbroken]
    rw [pause_of_not_broken (hd.isBroken.trans hbroken), hd.service]
    cases v.hasUpdates with
    | true =>
      -- What was sent until then is passed, one update after the other.
      refine ⟨.idle (.wait ms) ::
        List.replicate (d.service.idle (.wait ms)).engine.board.updates.length .pass,
        ?_, ?_, fun rest => ?_⟩
      · have hpasses := Dialogue.run_passes
          (d := ⟨d.service.idle (.wait ms), d.written, d.isBroken⟩) hbroken rfl
        rw [hwait, hpasses]
        refine ⟨rfl, ?_, hd.isBroken, hd.line⟩
        rw [List.map_append, hd.responses]
        rfl
      · simp [Turn.wait?]
      · simp [Turn.line?]
    | false =>
      refine ⟨[.idle (.wait ms), .lose], ?_, rfl, fun rest => ?_⟩
      · have hlose : Dialogue.run { d with service := d.service.idle (.wait ms) } [.lose] =
            { d with service := (d.service.idle (.wait ms)).holding [] } :=
          Dialogue.take_of_not_broken
            (d := ⟨d.service.idle (.wait ms), d.written, d.isBroken⟩) hbroken .lose
        rw [hwait, hlose]
        exact ⟨rfl, (List.append_nil _).trans hd.responses, hd.isBroken, hd.line⟩
      · rw [List.append_nil]
        rfl

/-- A part of an input is a text or a pause. -/
theorem goes_take (v : Serving) (part : Input) :
    v.Goes (v.take part) part.chars part.pause?.toList := by
  cases part with
  | text text => exact v.goes_feedAll text.toList
  | pause ms => exact v.goes_pause ms

/-- All parts one after the other. -/
theorem goes_takeAll (v : Serving) (input : List Input) :
    v.Goes (input.foldl take v) (input.flatMap Input.chars) (input.filterMap Input.pause?) := by
  induction input generalizing v with
  | nil => exact Goes.refl v
  | cons part input ih =>
    have hgoes := (v.goes_take part).trans (ih (v.take part))
    have hpauses : part.pause?.toList ++ input.filterMap Input.pause? =
        (part :: input).filterMap Input.pause? := by
      cases part <;> rfl
    rw [hpauses] at hgoes
    exact hgoes

/-- **Serving an input** is a dialogue in which its lines arrive and its pauses pass, each in their
order. -/
theorem run_mirrors (s : Service) (hasUpdates : Bool) (input : List Input) :
    ∃ turns : List Turn,
      turns.filterMap Turn.line? = linesOf (input.flatMap Input.chars) ∧
      turns.filterMap Turn.wait? = input.filterMap Input.pause? ∧
      (run s hasUpdates input).Mirrors (Dialogue.run { service := s } turns) := by
  have hstart : Mirrors { service := s, hasUpdates } { service := s } :=
    ⟨rfl, rfl, rfl, List.not_mem_nil⟩
  obtain ⟨turns, hmirrors, hpauses, hlines⟩ := goes_takeAll _ input _ hstart
  generalize hv : input.foldl take { service := s, hasUpdates } = v at hmirrors hlines
  -- What has arrived of a last line is a line as well.
  have hrest := hlines []
  rw [List.append_nil, List.append_nil, linesOf_of_not_mem hmirrors.line] at hrest
  have hclosed : Mirrors { v with line := [] } (Dialogue.run { service := s } turns) :=
    ⟨hmirrors.service, hmirrors.responses, hmirrors.isBroken, List.not_mem_nil⟩
  refine ⟨turns ++ [.line v.line], ?_, ?_, ?_⟩
  · rw [List.filterMap_append]
    exact hrest.symm
  · rw [List.filterMap_append, hpauses]
    exact List.append_nil _
  · rw [Dialogue.run_append]
    unfold run
    rw [hv]
    exact hclosed.answer v.line

end Serving

namespace Service

/-! ### Main theorem -/

/-- A service that was just built breaks off nothing, if its life times add up. -/
theorem lasting_of_build {setup : Setup} {s : Service} (h : setup.build = .ok s)
    (hsum : setup.settings.rateTtlSecs.toNat + setup.settings.rateGraceSecs.toNat < UInt64.size) :
    s.engine.Lasting setup.settings.rateTtlSecs.toNat := by
  unfold Setup.build at h
  cases hcheck : Settings.check setup.settings with
  | error defect =>
    rw [hcheck] at h
    exact nomatch h
  | ok =>
    rw [hcheck] at h
    obtain rfl := Except.ok.inj h
    exact ⟨⟨⟨nofun, nofun⟩, Nat.le_refl _, hsum⟩, nofun⟩

/-- A line on which a request is sent is answered as that request. -/
theorem handleLine_text {r : Request} (h : r.Fits) (s : Service) :
    s.handleLine (String.ofList r.text.toList) = s.handle r := by
  unfold handleLine
  rw [String.ofList_toList, Request.parse?_text h]

/-- One line in, one line out. -/
structure AnswersLineByLine (s : Service) : Prop where
  /-- Updates taken away, the answers to the lines are written, each by the service that the turns
  before it have left. -/
  answered : ∀ turns, (Dialogue.run { service := s } turns).answers = s.answers turns
  /-- There is one for each line that is not blank. -/
  length : ∀ turns, (s.answers turns).length = (Turn.spoken turns).length
  /-- No response holds a line feed. -/
  oneLine : ∀ response : Response, '\n' ∉ response.text.toList
  /-- The lines of the output are what was written. -/
  output : ∀ turns, Text.splitOn ['\n'] (Dialogue.run { service := s } turns).output =
    (Dialogue.run { service := s } turns).written.map (·.response.text.toList) ++ [[]]
  /-- A line that is no request is refused as invalid, and leaves the service as it is. -/
  refused : ∀ turns line, Text.isBlankText line = false →
    Request.parse? (String.ofList line) = none →
    Dialogue.run { service := s } (turns ++ [.line line]) =
      { Dialogue.run { service := s } turns with
        written := (Dialogue.run { service := s } turns).written ++
          [.answer (.error .invalidJson "malformed request")] }
  /-- Serving an input is a dialogue on its lines. -/
  served : ∀ hasUpdates input, ∃ turns : List Turn,
    turns.filterMap Turn.line? = Serving.linesOf (input.flatMap Input.chars) ∧
    turns.filterMap Turn.wait? = input.filterMap Input.pause? ∧
    (Serving.run s hasUpdates input).Mirrors (Dialogue.run { service := s } turns)

/-- **One line in, one line out**, whatever updates are written in between, as long as life times
add up. -/
theorem answers_line_by_line {s : Service} {limit : Nat} (h : s.engine.Lasting limit) :
    s.AnswersLineByLine where
  answered turns := Dialogue.answers_run rfl turns
  length turns := s.length_answers h turns
  oneLine := Response.lineFeed_not_mem_text
  output turns := Dialogue.lines_output _
  refused turns line hblank hparse := by
    -- Nothing has broken off before this line, since life times add up.
    have hgoes := (Dialogue.run_lasting (d := { service := s }) rfl h turns).1
    have hrefused (s : Service) : s.handleLine (String.ofList line) = (some notARequest, s) := by
      unfold handleLine
      rw [hparse]
    rw [Dialogue.run_append]
    show Dialogue.take _ (.line line) = _
    rw [Dialogue.take_of_not_broken hgoes]
    dsimp only [Dialogue.hear]
    rw [hblank, hrefused]
    rfl
  served := Serving.run_mirrors s

/-- A calculation is asked for, and what follows is blank, or no request. -/
theorem answers_line_by_line_calculation :
    let setup : Setup := { settings := Settings.defaults {}, wallClock := 0 }
    let turns : List Turn := [.line (Request.search "2+2").text.toList, .line "\t".toList,
      .idle (.wait 1000), .pass, .line "not json".toList]
    ∃ s, setup.build = .ok s ∧ s.engine.Lasting setup.settings.rateTtlSecs.toNat ∧
      s.AnswersLineByLine ∧ (s.answers turns).length = 2 := by
  intro setup turns
  have hcheck : Settings.check setup.settings = .ok () := by decide +kernel
  have hbuild : ∃ s, setup.build = .ok s := by
    unfold Setup.build
    rw [hcheck]
    exact ⟨_, rfl⟩
  obtain ⟨s, hs⟩ := hbuild
  have hlasting := lasting_of_build hs (by decide +kernel)
  have hanswers := answers_line_by_line hlasting
  have hspoken : (Turn.spoken turns).length = 2 := by decide +kernel
  exact ⟨s, hs, hlasting, hanswers, (hanswers.length turns).trans hspoken⟩

/-- Life times that do not add up leave lines unanswered under settings that are valid: rates are
fetched for a search and kept for a second; three seconds later they cannot be fetched for the next
one, which breaks off, and neither that line nor the one after it is answered. -/
theorem unanswered_with_life_times :
    let settings : Settings :=
      { Settings.defaults {} with
        commands := []
        currencyApiKey := "k"
        rateTtlSecs := 1
        rateGraceSecs := 18446744073709551615 }
    let replies : List Currency.Reply := [⟨0, .ok []⟩, ⟨0, .error (.network "down")⟩]
    let s : Service :=
      { engine := { sources := { settings, desk := { script := ⟨replies⟩ } }, wallClock := 0 } }
    let search := (Request.search "1 usd to eur").text.toList
    let turns : List Turn :=
      [.line search, .idle (.wait 3000), .line search, .line Request.escape.text.toList]
    Settings.check settings = .ok () ∧ (Turn.spoken turns).length = 3 ∧
      (Dialogue.run { service := s } turns).answers.length = 1 := by
  intro settings replies s search turns
  have hspoken : (Turn.spoken turns).length = 3 := by decide +kernel
  have hblank : Text.isBlankText search = false := by decide +kernel
  have hfirst : (s.handle (.search "1 usd to eur")).1.isSome = true := by decide +kernel
  have hbreaks : (((s.handle (.search "1 usd to eur")).2.idle (.wait 3000)).handle
      (.search "1 usd to eur")).1 = none := by decide +kernel
  have hanswer := handleLine_text (r := .search "1 usd to eur") nofun
  refine ⟨by decide +kernel, hspoken, ?_⟩
  rw [Dialogue.answers_run rfl]
  -- The second search is asked of the service that the first one and the time have left.
  rcases hsearched : s.handle (.search "1 usd to eur") with ⟨_ | response, searched⟩ <;>
    rw [hsearched] at hfirst hbreaks
  · exact nomatch hfirst
  · rcases hagain : (searched.idle (.wait 3000)).handle (.search "1 usd to eur") with ⟨_, broken⟩
    rw [hagain] at hbreaks
    obtain rfl := hbreaks
    simp only [turns, answers, hblank, search, hanswer, hsearched, hagain]
    rfl

end Service

end Launcher
