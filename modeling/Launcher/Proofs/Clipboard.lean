import Launcher.Clipboard
import Launcher.Proofs.Text.Pieces
import Mathlib.Data.List.Induction

namespace Launcher

/-!
# The clipboard history as the end of an unbounded log

The history of the clipboard shows the last five hundred of the texts that were copied. It is stated
as a view of something simpler: a log that takes texts in and never drops one. Clearing the history
moves the log on to a new part, so that even a text that was cleared long ago still has its number
there; that no identity is ever used twice is then a fact about the log alone.

* `Clipboard.IsSecret` — a text holds a pattern, whatever the case of its ASCII letters.
* `Clipboard.Event`, `Clipboard.after` — copied texts and clearings, and the history they leave.
* `ClipboardLog` — all texts that were ever taken in.
* `ClipboardLog.cleaned` — what is taken in for a copied text, by the characters that are removed
  and the blanks around the rest; `ClipboardLog.isTrimOf_cleaned` says what is left of it.
* `ClipboardLog.Admits` — which cleaned texts belong into the log.
* `Clipboard.Follows` — a history shows the newest texts of a log. Each event keeps it so
  (`Clipboard.Follows.on`): to cut a list off before or after a new first entry is the same.
* `Clipboard.after_shows_log` — so it is after any events.

The log is written down without the functions of the history. `Clipboard.normalize_eq_cleaned`,
`Clipboard.isSensitive_iff` and `Clipboard.Follows.accepts_iff` are where the two meet.
-/

namespace Clipboard

/-! ### Secrets -/

/-- A text holds one of the patterns that are not blank, trimmed and in any case of its ASCII
letters. -/
def IsSecret (patterns : List String) (text : String) : Prop :=
  ∃ pattern ∈ patterns, Text.trim pattern.toList ≠ [] ∧
    ∃ part, part <:+: text.toList ∧ Text.lower part = Text.lower (Text.trim pattern.toList)

/-- A folded pattern is found in a folded text where the text spells it, whatever the case. -/
theorem isInfix_lower_iff (pattern text : List Char) :
    Text.isInfix (Text.lower pattern) (Text.lower text) = true ↔
      ∃ part, part <:+: text ∧ Text.lower part = Text.lower pattern := by
  rw [Text.isInfix_iff]
  unfold Text.lower
  rw [List.infix_map_iff]
  exact exists_congr fun part => and_congr_right fun _ => eq_comm

/-- The patterns find exactly the secrets. -/
theorem isSensitive_iff (patterns : List String) (text : String) :
    isSensitive patterns text = true ↔ IsSecret patterns text := by
  unfold isSensitive IsSecret
  rw [List.any_eq_true]
  refine exists_congr fun pattern => and_congr_right fun _ => ?_
  rw [Bool.and_eq_true, isInfix_lower_iff]
  simp [Text.lower]

instance (patterns : List String) (text : String) : Decidable (IsSecret patterns text) :=
  decidable_of_iff _ (isSensitive_iff patterns text)

/-! ### Events -/

/-- What can happen to a clipboard history. -/
inductive Event where
  | capture (raw : String) (time : Int)
  | clear
deriving Repr, DecidableEq

/-- Takes an event in. -/
def on (c : Clipboard) : Event → Clipboard
  | .capture raw time => (c.capture raw time).2
  | .clear => c.clear

/-- What a history, empty at first, has come to after some events. -/
def after (patterns : List String) (events : List Event) : Clipboard :=
  events.foldl on { patterns }

end Clipboard

/-! ### The log -/

/-- All texts that were ever taken in, newest first. None is dropped, and each is numbered when it
is taken in. -/
structure ClipboardLog where
  /-- Those taken in since the history was last cleared. -/
  kept : List ClipboardEntry := []
  /-- Those before. -/
  cleared : List ClipboardEntry := []
deriving Repr, DecidableEq

namespace ClipboardLog

open Clipboard (IsSecret)

/-- Both parts of the log. -/
def all (log : ClipboardLog) : List ClipboardEntry :=
  log.kept ++ log.cleared

/-- What a copied text is taken in as: its zero and return characters are gone, and then the blanks
around the rest. -/
def cleaned (raw : String) : String :=
  String.ofList (Text.trim (raw.toList.filter fun c => c ≠ '\x00' ∧ c ≠ '\r'))

/-- A cleaned text belongs into the log: it is not empty, holds no secret and is not the text that
was taken in last since the history was cleared. -/
structure Admits (patterns : List String) (log : ClipboardLog) (text : String) : Prop where
  notEmpty : text ≠ ""
  notSecret : ¬IsSecret patterns text
  notLast : ∀ last ∈ log.kept.head?, last.text ≠ text

instance (patterns : List String) (log : ClipboardLog) (text : String) :
    Decidable (log.Admits patterns text) :=
  decidable_of_iff
    (text ≠ "" ∧ ¬IsSecret patterns text ∧ ∀ last ∈ log.kept.head?, last.text ≠ text)
    ⟨fun ⟨h₁, h₂, h₃⟩ => ⟨h₁, h₂, h₃⟩, fun ⟨h₁, h₂, h₃⟩ => ⟨h₁, h₂, h₃⟩⟩

/-- The identity of the entry with a number. -/
def identity (n : Nat) : String :=
  s!"clip-{n}"

/-- The entry for a text that is taken in, which gets the next number. -/
def entry (log : ClipboardLog) (text : String) (time : Int) : ClipboardEntry :=
  ⟨identity (log.all.length + 1), text, time⟩

/-- Takes an event in. -/
def on (patterns : List String) (log : ClipboardLog) : Clipboard.Event → ClipboardLog
  | .capture raw time =>
    if log.Admits patterns (cleaned raw) then
      { log with kept := log.entry (cleaned raw) time :: log.kept }
    else log
  | .clear => { kept := [], cleared := log.all }

/-- The log of some events. -/
def after (patterns : List String) (events : List Clipboard.Event) : ClipboardLog :=
  events.foldl (on patterns) {}

variable {patterns : List String} {log : ClipboardLog}

/-- A text that belongs into the log becomes its newest entry. -/
theorem on_capture_of_admits {raw : String} (h : log.Admits patterns (cleaned raw)) (time : Int) :
    log.on patterns (.capture raw time) =
      { log with kept := log.entry (cleaned raw) time :: log.kept } :=
  if_pos h

/-- Any other is as if it had not been copied. -/
theorem on_capture_of_not_admits {raw : String} (h : ¬log.Admits patterns (cleaned raw))
    (time : Int) : log.on patterns (.capture raw time) = log :=
  if_neg h

/-- What is taken in is what the removed characters and the blanks around leave. -/
theorem isTrimOf_cleaned (raw : String) :
    Text.IsTrimOf (cleaned raw).toList (raw.toList.filter fun c => c ≠ '\x00' ∧ c ≠ '\r') := by
  rw [cleaned, String.toList_ofList]
  exact Text.isTrimOf_trim _

/-! ### Identities -/

/-- One identity is one number. -/
theorem identity_inj {n k : Nat} (h : identity n = identity k) : n = k := by
  have hdigits : Nat.toDigits 10 n = Nat.toDigits 10 k := by
    have hchars := congrArg String.toList h
    unfold identity at hchars
    simpa only [String.toList_append, toString, List.append_cancel_left_eq,
      List.append_cancel_right_eq, Nat.toList_repr] using hchars
  calc n = Nat.ofDigitChars 10 (Nat.toDigits 10 n) 0 := Nat.ofDigitChars_ten_toDigits.symm
    _ = Nat.ofDigitChars 10 (Nat.toDigits 10 k) 0 := by rw [hdigits]
    _ = k := Nat.ofDigitChars_ten_toDigits

/-- The identities of the first `n` texts, newest first. -/
def identities : Nat → List String
  | 0 => []
  | n + 1 => identity (n + 1) :: identities n

/-- The identities of the first texts are numbers up to theirs. -/
theorem exists_of_mem_identities {id : String} {n : Nat} (h : id ∈ identities n) :
    ∃ k ≤ n, id = identity k := by
  induction n with
  | zero => exact nomatch h
  | succ n ih =>
    obtain rfl | hmem := List.mem_cons.mp h
    · exact ⟨n + 1, Nat.le_refl _, rfl⟩
    · obtain ⟨k, hk, hid⟩ := ih hmem
      exact ⟨k, Nat.le_succ_of_le hk, hid⟩

/-- No two of them are the same. -/
theorem identities_nodup (n : Nat) : (identities n).Nodup := by
  induction n with
  | zero => exact List.nodup_nil
  | succ n ih =>
    refine List.nodup_cons.mpr ⟨?_, ih⟩
    intro hmem
    obtain ⟨k, hk, hid⟩ := exists_of_mem_identities hmem
    have hnumber := identity_inj hid
    omega

/-- The identity of each entry is its number in the log. -/
def IsNumbered (log : ClipboardLog) : Prop :=
  log.all.map (·.id) = identities log.all.length

/-- Each event keeps the entries numbered. -/
theorem IsNumbered.on (h : log.IsNumbered) (event : Clipboard.Event) :
    (log.on patterns event).IsNumbered := by
  cases event with
  | capture raw time =>
    by_cases hadmits : log.Admits patterns (cleaned raw)
    · rw [on_capture_of_admits hadmits]
      exact congrArg _ h
    · rwa [on_capture_of_not_admits hadmits]
  -- Clearing moves the entries from one part to the other, and the log as a whole stays.
  | clear => exact h

/-- The entries are numbered after any events. -/
theorem isNumbered_after (patterns : List String) (events : List Clipboard.Event) :
    (after patterns events).IsNumbered := by
  unfold after
  induction events using List.reverseRecOn with
  | nil => rfl
  | append_singleton events event ih =>
    rw [List.foldl_append]
    exact ih.on event

end ClipboardLog

/-! ### A history and its log -/

namespace Clipboard

variable {patterns : List String} {c : Clipboard} {log : ClipboardLog}

/-- A history shows the newest texts of a log, and numbers the next one as the log does. -/
structure Follows (patterns : List String) (c : Clipboard) (log : ClipboardLog) : Prop where
  entries_eq : c.entries = log.kept.take capacity
  patterns_eq : c.patterns = patterns
  nextId_eq : c.nextId = log.all.length + 1

/-- The newest entry is that of the log, as there is room for one. -/
theorem Follows.head?_eq (h : Follows patterns c log) : c.entries.head? = log.kept.head? := by
  rw [h.entries_eq, List.head?_take]
  exact if_neg (by decide)

/-- A history accepts what belongs into its log. -/
theorem Follows.accepts_iff (h : Follows patterns c log) (text : String) :
    c.accepts text = true ↔ log.Admits patterns text := by
  unfold accepts
  rw [h.head?_eq, h.patterns_eq, Bool.and_eq_true, Bool.and_eq_true, Bool.not_eq_true',
    Bool.not_eq_true', Bool.not_eq_true', ← Bool.not_eq_true (isSensitive _ _), isSensitive_iff]
  constructor
  · rintro ⟨⟨hempty, hsecret⟩, hlast⟩
    refine ⟨by simpa using hempty, hsecret, ?_⟩
    intro last hmem
    rw [Option.mem_def.mp hmem] at hlast
    simpa using hlast
  · rintro ⟨hempty, hsecret, hlast⟩
    refine ⟨⟨by simpa using hempty, hsecret⟩, ?_⟩
    cases hhead : log.kept.head? with
    | none => rfl
    | some last => simpa using hlast last hhead

/-- A history normalizes a copied text as the log does. -/
theorem normalize_eq_cleaned (raw : String) : normalize raw = ClipboardLog.cleaned raw := by
  have hkeep (c : Char) : (c != '\x00' && c != '\r') = decide (c ≠ '\x00' ∧ c ≠ '\r') := by
    rw [Bool.eq_iff_iff]
    simp
  simp only [normalize, ClipboardLog.cleaned, hkeep]

/-- A text that is accepted becomes the newest entry, and the oldest one may fall out. -/
theorem capture_of_accepts {raw : String} (h : c.accepts (ClipboardLog.cleaned raw) = true)
    (time : Int) : c.capture raw time =
      (true, { c with
        entries := (⟨ClipboardLog.identity c.nextId, ClipboardLog.cleaned raw, time⟩ ::
          c.entries).take capacity
        nextId := c.nextId + 1 }) := by
  rw [← normalize_eq_cleaned] at h ⊢
  exact if_pos h

/-- A text that is refused leaves the history as it was. -/
theorem capture_of_refuses {raw : String} (h : ¬c.accepts (ClipboardLog.cleaned raw) = true)
    (time : Int) : c.capture raw time = (false, c) := by
  rw [← normalize_eq_cleaned] at h
  exact if_neg h

/-- The first places of a list with a bound are those of the list without it. -/
theorem take_cons_take {α : Type} (n : Nat) (a : α) (s : List α) :
    (a :: s.take n).take n = (a :: s).take n := by
  cases n with
  | zero => rfl
  | succ n => rw [List.take_succ_cons, List.take_succ_cons, List.take_take,
      Nat.min_eq_left (Nat.le_succ n)]

/-- **Each event keeps** a history at the end of its log. -/
theorem Follows.on (h : Follows patterns c log) (event : Event) :
    Follows patterns (c.on event) (log.on patterns event) := by
  cases event with
  | capture raw time =>
    -- What the bound cuts off stays in the log, and cutting first or last is the same.
    show Follows patterns (c.capture raw time).2 _
    by_cases haccepts : c.accepts (ClipboardLog.cleaned raw) = true
    · rw [capture_of_accepts haccepts,
        ClipboardLog.on_capture_of_admits ((h.accepts_iff _).mp haccepts)]
      refine ⟨?_, h.patterns_eq, congrArg (· + 1) h.nextId_eq⟩
      show (_ :: c.entries).take capacity = _
      rw [h.entries_eq, h.nextId_eq, take_cons_take]
      rfl
    · rw [capture_of_refuses haccepts,
        ClipboardLog.on_capture_of_not_admits fun hadmits =>
          haccepts ((h.accepts_iff _).mpr hadmits)]
      exact h
  | clear => exact ⟨rfl, h.patterns_eq, h.nextId_eq⟩

/-- A history follows its log through any events. -/
theorem follows_after (patterns : List String) (events : List Event) :
    Follows patterns (after patterns events) (ClipboardLog.after patterns events) := by
  unfold after ClipboardLog.after
  induction events using List.reverseRecOn with
  | nil => exact ⟨rfl, rfl, rfl⟩
  | append_singleton events event ih =>
    rw [List.foldl_append, List.foldl_append]
    exact ih.on event

/-! ### Main theorem -/

/-- **The history is the end of the log.** After any events it shows the newest five hundred of the
texts that were taken in since it was last cleared, newest first. A copied text is cleaned before
anything else: its zero and return characters are removed, and then the blanks around what is left.
A history takes in exactly the copied texts that, cleaned, belong into the log, and tells so; any
other leaves it as it was. No two entries ever had the same identity, the dropped and the cleared
ones included. -/
theorem after_shows_log (patterns : List String) (events : List Event) :
    (after patterns events).entries = (ClipboardLog.after patterns events).kept.take 500 ∧
    (∀ raw, Text.IsTrimOf (ClipboardLog.cleaned raw).toList
      (raw.toList.filter fun c => c ≠ '\x00' ∧ c ≠ '\r')) ∧
    (∀ raw time, ((after patterns events).capture raw time).1 = true ↔
      (ClipboardLog.after patterns events).Admits patterns (ClipboardLog.cleaned raw)) ∧
    (∀ raw time, ((after patterns events).capture raw time).1 = false →
      ((after patterns events).capture raw time).2 = after patterns events) ∧
    ((ClipboardLog.after patterns events).all.map (·.id)).Nodup := by
  have h := follows_after patterns events
  refine ⟨h.entries_eq, ClipboardLog.isTrimOf_cleaned, ?_, ?_, ?_⟩
  · intro raw time
    rw [← h.accepts_iff]
    by_cases haccepts : (after patterns events).accepts (ClipboardLog.cleaned raw) = true
    · rw [capture_of_accepts haccepts]
      exact iff_of_true rfl haccepts
    · rw [capture_of_refuses haccepts]
      exact iff_of_false Bool.false_ne_true haccepts
  · -- A text that was refused has left no trace.
    intro raw time hrefused
    by_cases haccepts : (after patterns events).accepts (ClipboardLog.cleaned raw) = true
    · rw [capture_of_accepts haccepts] at hrefused
      exact nomatch hrefused
    · rw [capture_of_refuses haccepts]
  · rw [ClipboardLog.isNumbered_after]
    exact ClipboardLog.identities_nodup _

/-- A secret that zero characters split is found, since they are removed first. -/
example : ((after ["token"] []).capture "my to\x00ken" 7).1 = false := by decide

end Clipboard

end Launcher
