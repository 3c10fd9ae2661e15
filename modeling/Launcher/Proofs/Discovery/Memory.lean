import Launcher.Discovery.Source
import Mathlib.Data.List.DropRight

namespace Launcher.Remembering

/-!
# Only successes are remembered

A source of items is slow, so its items are kept once it has given some. What is kept is a function
of the past alone, and this file says which one.

* `Use`, `after` — what is left after items were asked for and forgotten again and again.
* `answers` — what the source answered meanwhile: one entry for each request that reached it.
* `since` — the part of this since the items were last forgotten.
* `after_noted` — a source that writes down what it answers behaves like one that does not.
* `exists_since` — what is remembered is the first success among the answers since then.
* `cached_eq` — the same, said of `since`.
* `RemembersSuccesses`, `remembers_successes` — how a request is answered after any uses.

The source is a parameter: any function from a world and a state to an answer and a state. So its
answers cannot be read off the remembered items, and they are written down by the source itself, in
`noted`. The induction is on the uses from the last one backwards, since a use changes what is
remembered at the end. It carries two facts together: how the answers go on after those before the
last time the items were forgotten, and that the first success in this rest is what is remembered.
-/

/-- Items, or why there are none. -/
abbrev Answer : Type := Except SourceFault (List Item)

/-- What is done with remembered items. -/
inductive Use (W : Type) where
  /-- They are asked for, when the world is such. -/
  | ask (w : W)
  | forget

variable {σ W : Type} (request : W → σ → Answer × σ) (source : σ) (uses : List (Use W)) (w : W)

/-! ### One request -/

section Ask

variable {ask : σ → Answer × σ} {m : Remembering σ}

/-- Remembered items are the answer, and the source is not touched. -/
theorem ask_of_cached {items : List Item} (h : m.cached = some items) :
    m.ask ask = (.ok items, m) := by
  rw [Remembering.ask, h]

/-- Of an answer that comes from the source, the items are remembered, but no fault. -/
theorem ask_of_not_cached (h : m.cached = none) :
    m.ask ask =
      ((ask m.source).1, ⟨(ask m.source).2, (ask m.source).1.toOption⟩) := by
  rw [Remembering.ask, h]
  rcases ask m.source with ⟨answer, source⟩
  cases answer <;> rfl

end Ask

/-! ### Many uses -/

/-- What a use leaves. -/
def used (m : Remembering σ) : Use W → Remembering σ
  | .ask w => (m.ask (request w)).2
  | .forget => m.forget

/-- What some uses leave of a source of which nothing is remembered at first. -/
def after : Remembering σ :=
  uses.foldl (used request) ⟨source, none⟩

/-- A request whose answer is written down behind those before it. -/
def noted (s : σ × List Answer) : Answer × (σ × List Answer) :=
  let (answer, source) := request w s.1
  (answer, source, s.2 ++ [answer])

/-- What the source answered during some uses, which is told by a source that writes it down. -/
def answers : List Answer :=
  (after (noted request) (source, []) uses).source.2

/-- The uses up to the last time that the items were forgotten. -/
def upToForget (uses : List (Use W)) : List (Use W) :=
  uses.rdropWhile fun
    | .ask _ => true
    | .forget => false

/-- What the source answered since the items were last forgotten. -/
def since : List Answer :=
  (answers request source uses).drop (answers request source (upToForget uses)).length

/-- One more request is made of what the uses before it have left. -/
theorem after_append_ask : after request source (uses ++ [.ask w]) =
    ((after request source uses).ask (request w)).2 := by
  rw [after, List.foldl_append]
  rfl

/-- To forget once more leaves the source as it is. -/
theorem after_append_forget : after request source (uses ++ [.forget]) =
    (after request source uses).forget := by
  rw [after, List.foldl_append]
  rfl

/-- A request does not move the last time that the items were forgotten. -/
@[simp] theorem upToForget_append_ask : upToForget (uses ++ [.ask w]) = upToForget uses :=
  List.rdropWhile_concat_pos _ _ _ rfl

/-- The uses up to the last time include that one. -/
@[simp] theorem upToForget_append_forget :
    upToForget (uses ++ [.forget]) = uses ++ [.forget] :=
  List.rdropWhile_concat_neg _ _ _ Bool.false_ne_true

/-! ### Answers that are written down -/

/-- To write the answers down changes nothing else. -/
theorem after_noted : after (noted request) (source, []) uses =
    ⟨((after request source uses).source, answers request source uses),
      (after request source uses).cached⟩ := by
  have hrest : (after (noted request) (source, []) uses).source.1 =
        (after request source uses).source ∧
      (after (noted request) (source, []) uses).cached =
        (after request source uses).cached := by
    induction uses using List.reverseRecOn with
    | nil => exact ⟨rfl, rfl⟩
    | append_singleton uses use ih =>
      obtain ⟨hsource, hcached⟩ := ih
      -- Both remember the same, so either both requests reach the source or none does.
      cases use with
      | forget =>
        rw [after_append_forget, after_append_forget]
        exact ⟨hsource, rfl⟩
      | ask w =>
        rw [after_append_ask, after_append_ask]
        cases h : (after request source uses).cached with
        | some items =>
          rw [ask_of_cached h, ask_of_cached (hcached.trans h)]
          exact ⟨hsource, hcached⟩
        | none =>
          rw [ask_of_not_cached h, ask_of_not_cached (hcached.trans h), ← hsource]
          exact ⟨rfl, rfl⟩
  rw [← hrest.1, ← hrest.2]
  rfl

variable {request source uses}

/-- No request reaches the source while items are remembered. -/
theorem answers_append_ask_of_cached {items : List Item}
    (h : (after request source uses).cached = some items) :
    answers request source (uses ++ [.ask w]) = answers request source uses := by
  have hnoted : (after (noted request) (source, []) uses).cached = some items := by
    rw [after_noted]
    exact h
  rw [answers, after_append_ask, ask_of_cached hnoted, answers]

/-- Otherwise one request reaches the source. -/
theorem answers_append_ask_of_not_cached (h : (after request source uses).cached = none) :
    answers request source (uses ++ [.ask w]) =
      answers request source uses ++ [(request w (after request source uses).source).1] := by
  have hnoted : (after (noted request) (source, []) uses).cached = none := by
    rw [after_noted]
    exact h
  rw [answers, after_append_ask, ask_of_not_cached hnoted, after_noted]
  rfl

/-! ### What is remembered -/

variable (request source uses)

/-- The answers that the source gave follow those that it gave up to the last time that the items
were forgotten, and what is remembered is the first success among them. -/
theorem exists_since : ∃ late,
    answers request source uses = answers request source (upToForget uses) ++ late ∧
      (after request source uses).cached = late.findSome? Except.toOption := by
  induction uses using List.reverseRecOn with
  | nil => exact ⟨[], rfl, rfl⟩
  | append_singleton uses use ih =>
    cases use with
    -- Forgetting starts a new rest, which is empty, as is what is remembered.
    | forget =>
      rw [upToForget_append_forget, after_append_forget]
      exact ⟨[], (List.append_nil _).symm, rfl⟩
    | ask w =>
      obtain ⟨late, hanswers, hcached⟩ := ih
      rw [upToForget_append_ask, after_append_ask]
      cases h : (after request source uses).cached with
      | some items =>
        rw [answers_append_ask_of_cached w h, ask_of_cached h]
        exact ⟨late, hanswers, hcached⟩
      | none =>
        -- There was no success so far, so the new answer is the first one if it is a success.
        rw [answers_append_ask_of_not_cached w h, ask_of_not_cached h]
        refine ⟨late ++ [_], by rw [hanswers, List.append_assoc], ?_⟩
        rw [List.findSome?_append, ← hcached, h, Option.none_or, List.findSome?_singleton]

/-- The answers are those up to the last time the items were forgotten, and those since. -/
theorem answers_eq : answers request source uses =
    answers request source (upToForget uses) ++ since request source uses := by
  obtain ⟨late, hanswers, -⟩ := exists_since request source uses
  rw [since, hanswers, List.drop_left]

/-- **What is remembered** are the items of the first success since the items were last forgotten. -/
theorem cached_eq : (after request source uses).cached =
    (since request source uses).findSome? Except.toOption := by
  -- The rest that exists is the one that `since` takes.
  obtain ⟨late, hanswers, hcached⟩ := exists_since request source uses
  rw [since, hanswers, List.drop_left, hcached]

/-! ### Main theorem -/

/-- How items are remembered, and how a request is answered after some uses. -/
structure RemembersSuccesses : Prop where
  answers_eq : answers request source uses =
    answers request source (upToForget uses) ++ since request source uses
  /-- The first success since the items were last forgotten is the answer, and the source is not
  asked. -/
  of_success : ∀ w items, (since request source uses).findSome? Except.toOption = some items →
    ((after request source uses).ask (request w)).1 = .ok items ∧
      answers request source (uses ++ [.ask w]) = answers request source uses
  /-- Without one, the source is asked once, and its answer is the answer. -/
  of_failures : ∀ w, (∀ answer ∈ since request source uses, answer.toOption = none) →
    ((after request source uses).ask (request w)).1 =
        (request w (after request source uses).source).1 ∧
      answers request source (uses ++ [.ask w]) =
        answers request source uses ++ [((after request source uses).ask (request w)).1]
  /-- After a fault, nothing is remembered. -/
  of_error : ∀ w fault, ((after request source uses).ask (request w)).1 = .error fault →
    (after request source (uses ++ [.ask w])).cached = none

/-- **Only successes are remembered**, each until the items are forgotten. -/
theorem remembers_successes : RemembersSuccesses request source uses where
  answers_eq := answers_eq request source uses
  of_success w items hfirst := by
    have hcached := (cached_eq request source uses).trans hfirst
    exact ⟨by rw [ask_of_cached hcached], answers_append_ask_of_cached w hcached⟩
  of_failures w hfailures := by
    have hcached := (cached_eq request source uses).trans (List.findSome?_eq_none_iff.mpr hfailures)
    rw [ask_of_not_cached hcached]
    exact ⟨rfl, answers_append_ask_of_not_cached w hcached⟩
  -- Remembered items are no fault, so the fault has come from the source.
  of_error w fault hfault := by
    rw [after_append_ask]
    cases hcached : (after request source uses).cached with
    | some items =>
      rw [ask_of_cached hcached] at hfault
      exact nomatch hfault
    | none =>
      rw [ask_of_not_cached hcached] at hfault ⊢
      exact congrArg Except.toOption hfault

/-- A fault and an empty list: the source is asked again after the fault only, and after the items were
forgotten. -/
example : answers Source.discover (.script "app" [.error "no folder", .ok []])
    [.ask {}, .ask {}, .ask {}, .forget, .ask {}] =
      [.error ⟨"app", "no folder"⟩, .ok [], .ok []] :=
  rfl

end Launcher.Remembering
