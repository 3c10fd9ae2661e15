import Launcher.Proofs.QueryBox.Events

namespace Launcher.QueryBox

/-!
# The box holds the text that is typed

The text of the box is the one thing that the user sees and edits. A changed text is taken over as
it is, and it alone decides whether a parameter goes on being typed. Backspaces take a parameter
away from its end, and one more leads back to the keyword, for which a search is made then.

* `paramOf?_typing_eq_some_iff` — a text goes on with the parameter exactly if the keyword and a
  space stand before it. Keywords that end in a space, or lie beyond ASCII, are no exceptions.
* `FollowsText` — what a changed text makes of the box.
* `Session.erasing` — what a run of backspaces shows; `Session.Erases` — it takes the parameter away
  character by character, and then searches for the keyword.
* `Session.backspaced_typing` — the induction on the number of backspaces, with the parameter
  described by how much of its front is left.
* `after_follows_text` — both hold of the box after any events, as its fields agree.
-/

variable {b : QueryBox} {command : Command} {param : String}

/-! ### Texts -/

/-- A text goes on with the parameter if the keyword and a space stand before it. -/
theorem paramOf?_typing_eq_some_iff {text param' : String} :
    (typing command param).paramOf? text = some param' ↔
      text = command.keyword ++ " " ++ param' := by
  have hlead : (typing command param).lead = command.keyword ++ " " := rfl
  rw [paramOf?, hlead, Option.map_eq_some_iff, ← String.toList_inj]
  simp only [Text.stripStart?_eq_some_iff]
  constructor
  · rintro ⟨rest, hrest, rfl⟩
    simp [hrest]
  · intro htext
    exact ⟨param'.toList, htext.trans String.toList_append, String.ofList_toList⟩

/-- A text that begins with the keyword changes the parameter. -/
theorem type_of_keyword (command : Command) (param param' : String) :
    (typing command param).type (command.keyword ++ " " ++ param') =
      (.render (hitOf command param'), typing command param') := by
  rw [type_typing, paramOf?_typing_eq_some_iff.mpr rfl]

/-- Any other text is a query. -/
theorem type_of_other {text : String} (h : ∀ param', text ≠ command.keyword ++ " " ++ param') :
    (typing command param).type text = (.search text, plain text) := by
  have hnone : (typing command param).paramOf? text = none :=
    Option.eq_none_iff_forall_ne_some.mpr fun param' hparam =>
      h param' (paramOf?_typing_eq_some_iff.mp hparam)
  rw [type_typing, hnone]

/-- While a parameter is typed, a changed text goes on with it or is a query. -/
theorem type_typing_cases (command : Command) (param text : String) :
    (∃ param', text = command.keyword ++ " " ++ param' ∧ (typing command param).type text =
      (.render (hitOf command param'), typing command param')) ∨
    ((¬ ∃ param', text = command.keyword ++ " " ++ param') ∧
      (typing command param).type text = (.search text, plain text)) := by
  by_cases h : ∃ param', text = command.keyword ++ " " ++ param'
  · obtain ⟨param', rfl⟩ := h
    exact .inl ⟨param', rfl, type_of_keyword command param param'⟩
  · exact .inr ⟨h, type_of_other (not_exists.mp h)⟩

/-- The text begins with the keyword of the active command and a space, and a parameter follows. -/
def Continues (b : QueryBox) (text param : String) : Prop :=
  b.mode = .param ∧ ∃ command, b.active = some command ∧ text = command.keyword ++ " " ++ param

/-- What a changed text makes of a box. -/
structure FollowsText (b : QueryBox) : Prop where
  /-- The text is in the box. -/
  text_eq : ∀ text, (b.type text).2.text = text
  /-- A parameter is typed exactly if one was, and the text goes on with the keyword. -/
  mode_iff : ∀ text, (b.type text).2.mode = .param ↔ ∃ param, b.Continues text param
  /-- The command stays, and the parameter is the rest of the text. -/
  param_eq : ∀ text param, b.Continues text param →
    (b.type text).2.active = b.active ∧ (b.type text).2.param = param
  /-- The text of the box changes nothing. -/
  same : (b.type b.text).2 = b

/-- A box in which a parameter is typed is continued by the texts with its keyword. -/
theorem continues_typing {text param' : String} :
    (typing command param).Continues text param' ↔ text = command.keyword ++ " " ++ param' := by
  constructor
  · rintro ⟨-, _, ⟨⟩, htext⟩
    exact htext
  · exact fun htext => ⟨rfl, command, rfl, htext⟩

theorem followsText_plain (text : String) : FollowsText (plain text) where
  text_eq _ := rfl
  mode_iff _ := ⟨nofun, fun ⟨_, h, _⟩ => nomatch h⟩
  param_eq _ _ h := nomatch h.1
  same := rfl

/-- While a parameter is typed, the text decides what becomes of it. -/
theorem followsText_typing (command : Command) (param : String) :
    FollowsText (typing command param) where
  text_eq text := by
    obtain ⟨param', rfl, heq⟩ | ⟨-, heq⟩ := type_typing_cases command param text
    · rw [heq, typing]
    · rw [heq, plain]
  mode_iff text := by
    simp only [continues_typing]
    obtain ⟨param', rfl, heq⟩ | ⟨hother, heq⟩ := type_typing_cases command param text
    · rw [heq]
      exact iff_of_true rfl ⟨param', rfl⟩
    · rw [heq]
      exact iff_of_false (by simp [plain]) hother
  param_eq text param' h := by
    obtain rfl := continues_typing.mp h
    rw [type_of_keyword]
    exact ⟨rfl, rfl⟩
  same := congrArg Prod.snd (type_of_keyword command param param)

/-- So a box whose fields agree holds what is typed. -/
theorem Coherent.followsText (h : b.Coherent) : b.FollowsText := by
  obtain ⟨text, rfl⟩ | ⟨command, param, -, rfl⟩ := h.eq_plain_or_typing
  · exact followsText_plain text
  · exact followsText_typing command param

/-! ### Backspaces -/

/-- The first characters of a text. -/
def front (text : String) (n : Nat) : String :=
  String.ofList (text.toList.take n)

theorem front_zero (text : String) : front text 0 = "" := rfl

/-- As many first characters as there are make the whole text. -/
theorem front_length (text : String) : front text text.length = text := by
  rw [front, ← String.length_toList, List.take_length, String.ofList_toList]

/-- The backspace key with some of the first characters of a parameter takes the last of them. -/
theorem backspace_front {n : Nat} (h : n < param.length) :
    (typing command (front param (n + 1))).backspace =
      (.render (hitOf command (front param n)), typing command (front param n)) := by
  rw [← String.length_toList] at h
  have hne : ¬ (front param (n + 1)).isEmpty = true := by
    rw [String.isEmpty_iff, ← String.toList_eq_nil_iff, front, String.toList_ofList,
      List.take_eq_nil_iff]
    rintro (hzero | hnil)
    · exact nomatch hzero
    · simp [hnil] at h
  have hdrop : String.ofList (front param (n + 1)).toList.dropLast = front param n := by
    rw [front, String.toList_ofList, List.take_succ_eq_append_getElem h, List.dropLast_concat]
    rfl
  rw [backspace_typing, if_neg hne, hdrop]
  rfl

/-- With no parameter left, the backspace key leads back to the keyword. -/
theorem backspace_empty (command : Command) :
    (typing command "").backspace = (.search command.keyword, plain command.keyword) :=
  rfl

namespace Session

/-- What some backspaces make of a box. -/
def backspaced (s : Session) (k : Nat) : Session :=
  (List.replicate k Event.backspace).foldl on s

/-- One more backspace comes last. -/
theorem backspaced_succ (s : Session) (k : Nat) :
    s.backspaced (k + 1) = (s.backspaced k).on .backspace := by
  rw [backspaced, List.replicate_succ', List.foldl_append]
  rfl

/-- The replies to the first `k` backspaces: each shows the command with one character fewer. -/
def erasing (command : Command) (param : String) (k : Nat) : List Reply :=
  (List.range k).map fun i => .render (hitOf command (front param (param.length - (i + 1))))

/-- One more backspace shows one character fewer. -/
theorem erasing_succ (command : Command) (param : String) (k : Nat) :
    erasing command param (k + 1) =
      erasing command param k ++ [.render (hitOf command (front param (param.length - (k + 1))))] := by
  rw [erasing, List.range_succ, List.map_append]
  rfl

/-- Backspaces take a parameter away character by character, and the next one leaves the keyword,
which is searched for. -/
structure Erases (s : Session) (command : Command) : Prop where
  shorter : ∀ k ≤ s.box.param.length, s.backspaced k =
    ⟨s.replies ++ erasing command s.box.param k,
      typing command (front s.box.param (s.box.param.length - k))⟩
  left : s.backspaced (s.box.param.length + 1) =
    ⟨s.replies ++ erasing command s.box.param s.box.param.length ++ [.search command.keyword],
      plain command.keyword⟩

/-- After some backspaces, no more than the parameter has characters, its last ones are gone, that
many of them. -/
theorem backspaced_typing (replies : List Reply) (command : Command) (param : String) {k : Nat}
    (h : k ≤ param.length) :
    backspaced ⟨replies, typing command param⟩ k =
      ⟨replies ++ erasing command param k, typing command (front param (param.length - k))⟩ := by
  induction k with
  | zero => simp [backspaced, erasing, front_length]
  | succ k ih =>
    have hlength : param.length - k = param.length - (k + 1) + 1 := by omega
    rw [backspaced_succ, ih (Nat.le_of_succ_le h), erasing_succ, ← List.append_assoc, hlength, on,
      QueryBox.on, backspace_front (by omega)]

/-- The next one finds the parameter empty. -/
theorem erases_typing (replies : List Reply) (command : Command) (param : String) :
    Erases ⟨replies, typing command param⟩ command where
  shorter _ h := backspaced_typing replies command param h
  left := by
    show backspaced ⟨replies, typing command param⟩ (param.length + 1) = _
    rw [backspaced_succ, backspaced_typing replies command param (Nat.le_refl _), Nat.sub_self,
      front_zero, on, QueryBox.on, backspace_empty]
    rfl

end Session

/-! ### Main theorem -/

/-- **The box holds the text that is typed.** After any events, a changed text is taken over as it
is, and while a parameter is typed, backspaces take it away and then lead back to the keyword. -/
theorem after_follows_text (events : List Event) :
    (Session.after events).box.FollowsText ∧
    ∀ command, (Session.after events).box.mode = .param →
      (Session.after events).box.active = some command →
      (Session.after events).Erases command := by
  have hcoherent := Session.coherent_box events
  refine ⟨hcoherent.followsText, ?_⟩
  intro command hmode hactive
  rcases hafter : Session.after events with ⟨replies, box⟩
  rw [hafter] at hcoherent hmode hactive
  obtain ⟨text, rfl⟩ | ⟨command', param, -, rfl⟩ := hcoherent.eq_plain_or_typing
  · exact nomatch hmode
  · obtain rfl : command' = command := Option.some.inj hactive
    exact Session.erases_typing replies command' param

/-- A keyword that ends in a space, and a parameter beyond ASCII. -/
theorem after_follows_text_spaced :
    let command : Command := { keyword := "é ", template := "\x7bquery\x7d" }
    let events : List Event := [.tab (some command), .type "é  è"]
    (Session.after events).box = typing command "è" ∧ (Session.after events).box.FollowsText ∧
      (Session.after events).Erases command := by
  intro command events
  have hbox : (Session.after events).box = typing command "è" := by decide
  obtain ⟨hfollows, herases⟩ := after_follows_text events
  have hmode : (Session.after events).box.mode = .param := by rw [hbox, typing]
  have hactive : (Session.after events).box.active = some command := by rw [hbox, typing]
  exact ⟨hbox, hfollows, herases command hmode hactive⟩

end Launcher.QueryBox
