import Launcher.Proofs.QueryBox.Events

namespace Launcher.QueryBox

/-!
# What is shown is what is executed

While a parameter is typed, one result is on the screen, and the enter key is about that result. But
the two come about separately: a reply carries the result when it is shown, and the action is made
anew from the fields of the box when the key is pressed. They are the same because every event that
changes the fields also shows the result again.

* `LastShown` — the result that some replies have shown last.
* `Session.Shows` — while a parameter is typed, the command with that very parameter is shown.
* `Session.Shows.on`, `Session.shows_after` — each event keeps this, so it holds after any events.
* `enter_executes_shown` — the enter key then asks for the action of the result that is shown.
-/

/-! ### The result that is shown -/

/-- The result was shown, and since then nothing has been asked for. -/
def LastShown (replies : List Reply) (hit : Hit) : Prop :=
  ∃ before after, replies = before ++ .render hit :: after ∧ ∀ reply ∈ after, reply = .unchanged

variable {replies : List Reply} {hit : Hit}

theorem lastShown_concat_render : LastShown (replies ++ [.render hit]) hit :=
  ⟨replies, [], rfl, by simp⟩

/-- A reply that nothing has changed shows nothing else. -/
theorem LastShown.concat_unchanged (h : LastShown replies hit) :
    LastShown (replies ++ [.unchanged]) hit := by
  obtain ⟨before, after, rfl, hafter⟩ := h
  refine ⟨before, after ++ [.unchanged], by simp, ?_⟩
  intro reply hreply
  obtain hmem | hmem := List.mem_append.mp hreply
  · exact hafter reply hmem
  · exact List.mem_singleton.mp hmem

namespace Session

/-- The fields of the box agree, and while a parameter is typed the command is shown with it. -/
structure Shows (s : Session) : Prop where
  coherent : s.box.Coherent
  shown : ∀ command param, s.box = typing command param →
    LastShown s.replies (hitOf command param)

/-- At first no parameter is typed. -/
theorem shows_start : Shows {} where
  coherent := coherent_plain ""
  shown _ _ h := absurd h (plain_ne_typing _ _ _)

/-- Each event that leaves a parameter has shown the command with it, or has changed nothing. -/
theorem Shows.on {s : Session} (h : s.Shows) (event : Event) : (s.on event).Shows where
  coherent := (turn_on h.coherent event).coherent h.coherent
  shown := by
    have hturn := turn_on h.coherent event
    unfold Session.on
    generalize s.box.on event = r at hturn
    -- Only a turn that shows the command leaves a parameter that was not typed before.
    intro command param hbox
    cases hturn with
    | unchanged => exact (h.shown command param hbox).concat_unchanged
    | render haccepts param' =>
      obtain ⟨-, -, ⟨⟩, rfl⟩ := QueryBox.mk.inj hbox
      exact lastShown_concat_render
    | search | execute => exact absurd hbox (plain_ne_typing _ _ _)

theorem shows_after (events : List Event) : (after events).Shows :=
  after_induction shows_start (fun _ event h => h.on event) events

end Session

/-! ### Main theorem -/

/-- The enter key asks for the action of the command with its parameter, whatever is selected. -/
theorem enter_typing (command : Command) (param : String) (selected : Option Hit) :
    (typing command param).enter selected = (.execute (hitOf command param).action, {}) :=
  rfl

/-- **What is shown is what is executed.** While a parameter is typed, the enter key asks for the
action of the result that was shown last, whatever result is selected, and leaves an empty box. -/
theorem enter_executes_shown {events : List Event}
    (h : (Session.after events).box.mode = .param) :
    ∃ hit, LastShown (Session.after events).replies hit ∧
      ∀ selected, (Session.after events).box.enter selected = (.execute hit.action, {}) := by
  have hshows := Session.shows_after events
  obtain ⟨text, hbox⟩ | ⟨command, param, -, hbox⟩ := hshows.coherent.eq_plain_or_typing
  · rw [hbox] at h
    exact nomatch h
  · refine ⟨hitOf command param, hshows.shown command param hbox, ?_⟩
    intro selected
    rw [hbox, enter_typing]

/-- A parameter is typed after a keyword, then the tab key is pressed again. -/
theorem enter_executes_shown_of_tab :
    let search : Command :=
      { keyword := "s", kind := .url, template := "u?q=\x7bquery\x7d" }
    let events := [.tab (some search), .type "s lean", .tab none]
    (Session.after events).box.mode = .param ∧
    ∃ hit, LastShown (Session.after events).replies hit ∧
      ∀ selected, (Session.after events).box.enter selected = (.execute hit.action, {}) :=
  ⟨by decide, enter_executes_shown (by decide)⟩

end Launcher.QueryBox
