import Launcher.Proofs.Command
import Launcher.Proofs.QueryBox.Events
import Launcher.Proofs.Settings.Validity

namespace Launcher

/-!
# A parameter after its keyword

A parameter is given to a command in two ways: it is typed after the tab key, or it stands in the
query after the keyword and a space. The two should lead to the same action. They do for all
keywords without a blank and for no others: the query is cut at its first blank, so of a keyword of
two words only the first would be found.

* `inlineParam?_eq` — the parameter in a query after a keyword without blanks.
* `matchCommand?_eq_some` — what a result for a command can be: without a parameter, or with what
  stands in the query after the keyword.
* `QueryBox.replyTyped`, `QueryBox.InlineAgrees` — what the first way leads to, and when the second
  leads to the same.
* `QueryBox.inlineAgrees_iff` — it does exactly for the keywords without blanks.
* `QueryBox.not_inlineAgrees_git_hub` — a keyword of two words passes the checks of the settings,
  and finds nothing.

For "only if", the action of the result is compared with that of an empty parameter: they differ
(`Command.action_ne_of_not_blank`), so the keyword must have been found in the query.
-/

/-! ### Queries with a parameter -/

section Query

variable {keyword param : List Char}

/-- A keyword without blanks, a space and a parameter make a trimmed query but for its end. -/
theorem trim_inline (hne : keyword ≠ []) (hkeyword : ∀ c ∈ keyword, Text.isBlank c = false)
    (hparam : Text.isBlankText param = false) :
    Text.trim (keyword ++ ' ' :: param) = keyword ++ ' ' :: Text.trimEnd param := by
  obtain ⟨first, rest, rfl⟩ := List.exists_cons_of_ne_nil hne
  have hfirst : Text.isBlank first = false := hkeyword first List.mem_cons_self
  rw [Text.trim, Text.trimStart, List.cons_append,
    List.dropWhile_cons_of_neg (Bool.not_eq_true _ ▸ hfirst), ← List.cons_append,
    List.append_cons, Text.trimEnd_append hparam, ← List.append_cons]

/-- The parameter in a query after a keyword without blanks. -/
theorem inlineParam?_eq (hne : keyword ≠ []) (hkeyword : ∀ c ∈ keyword, Text.isBlank c = false)
    (hparam : Text.isBlankText param = false) :
    inlineParam? (Text.trim (keyword ++ ' ' :: param)) = some (keyword, Text.trim param) := by
  have htrim : (Text.trim param).isEmpty = false := by
    rw [Bool.eq_false_iff, ne_eq, List.isEmpty_iff, Text.trim_eq_nil_iff, hparam]
    exact Bool.false_ne_true
  rw [trim_inline hne hkeyword hparam, inlineParam?,
    Text.splitAtBlank?_append hkeyword (by decide)]
  simp only [Option.bind_eq_bind, Option.bind_some, Text.trim_trimEnd, htrim, Bool.false_eq_true,
    if_false]

/-- What stands before a parameter holds no blank. -/
theorem isBlank_of_inlineParam? {query head tail : List Char}
    (h : inlineParam? query = some (head, tail)) : ∀ c ∈ head, Text.isBlank c = false := by
  rw [inlineParam?, Option.bind_eq_bind, Option.bind_eq_some_iff] at h
  obtain ⟨⟨before, after⟩, hcut, h⟩ := h
  dsimp only at h
  split at h
  next => exact nomatch h
  next =>
    obtain ⟨rfl, -⟩ := Prod.mk.inj (Option.some.inj h)
    exact Text.isBlank_of_splitAtBlank? hcut

end Query

/-! ### Results -/

section Results

variable {s : Settings} {c : Command} {query : String} {hit : Hit}

theorem hit_command (c : Command) (group param : String) (score : Float) (offsets : List Nat) :
    (c.hit group param score offsets).command = some c :=
  rfl

theorem hit_action (c : Command) (group param : String) (score : Float) (offsets : List Nat) :
    (c.hit group param score offsets).action = c.action param :=
  rfl

/-- The result for a command is without a parameter, or its keyword stands before one. -/
theorem matchCommand?_eq_some (h : matchCommand? s query c = some hit) :
    hit.command = some c ∧ (hit.action = c.action "" ∨
      ∃ head tail, inlineParam? query.toList = some (head, tail) ∧
        Text.equalIgnoringCase c.keyword (String.ofList head) = true) := by
  rw [matchCommand?] at h
  dsimp only at h
  split at h
  next head param hinline =>
    obtain ⟨hparam, haccepts⟩ := Option.filter_eq_some_iff.mp hinline
    obtain rfl := Option.some.inj h
    exact ⟨hit_command .., .inr ⟨head, param, hparam, (Bool.and_eq_true_iff.mp haccepts).2⟩⟩
  next =>
    obtain ⟨found, -, rfl⟩ := Option.map_eq_some_iff.mp h
    exact ⟨hit_command .., .inl (hit_action ..)⟩

/-- A command whose keyword stands before a parameter has an exact match with it. -/
theorem matchCommand?_of_inlineParam? {tail : List Char} (hc : c.acceptsParam = true)
    (h : inlineParam? query.toList = some (c.keyword.toList, tail)) :
    ∃ group, matchCommand? s query c =
      some (c.hit group (String.ofList tail) Match.exactScore []) := by
  have hsame : Text.equalIgnoringCase c.keyword (String.ofList c.keyword.toList) = true := by
    rw [String.ofList_toList, Text.equalIgnoringCase, beq_self_eq_true]
  rw [matchCommand?, h]
  dsimp only
  rw [Option.filter_some, hc, Bool.true_and, if_pos hsame]
  exact ⟨_, rfl⟩

/-- The results of commands are those of the commands that are enabled, for the trimmed query. -/
theorem mem_matchCommands_iff (hquery : Text.isBlankString query = false) :
    hit ∈ matchCommands s query ↔
      ∃ c ∈ s.enabledCommands, matchCommand? s (Text.trimmed query) c = some hit := by
  have htrim : (Text.trimmed query).isEmpty = false := by
    rw [String.isEmpty_eq_false_iff, ne_eq, ← String.toList_eq_nil_iff, Text.toList_trimmed,
      Text.trim_eq_nil_iff]
    exact Bool.eq_false_iff.mp hquery
  rw [matchCommands, htrim, if_neg Bool.false_ne_true, List.mem_filterMap]

end Results

/-! ### Main theorem -/

namespace QueryBox

variable {b : QueryBox} {s : Settings} {c : Command} {param : String}

/-- What the enter key asks for after the tab key was pressed on a command and a parameter typed. -/
def replyTyped (b : QueryBox) (c : Command) (param : String) (selected : Option Hit) : Reply :=
  (((b.tab (some c)).2.setParam param).2.enter selected).1

/-- The enter key asks for the action with the parameter that was typed. -/
theorem replyTyped_eq (hb : b.isParamMode = false) (hc : c.acceptsParam = true)
    (selected : Option Hit) : b.replyTyped c param selected = .execute (c.action param) := by
  have hfilter : (some c).filter (·.acceptsParam) = some c := Option.filter_some_pos hc
  unfold replyTyped tab
  rw [hb, if_neg Bool.false_ne_true, hfilter]
  rfl

/-- The query of a keyword, a space and a parameter has an exact match for the command, with the
action that the enter key asks for if the parameter is typed after the tab key. -/
def InlineAgrees (s : Settings) (c : Command) (param : String) : Prop :=
  ∃ hit ∈ matchCommands s (c.keyword ++ " " ++ param),
    hit.command = some c ∧ hit.score = Match.exactScore ∧
    ∀ (b : QueryBox) (selected : Option Hit), b.isParamMode = false →
      b.replyTyped c param selected = .execute hit.action

/-- **The two ways to give a parameter agree** exactly if the keyword holds no blank. -/
theorem inlineAgrees_iff (hs : s.check = .ok ()) (hc : c ∈ s.enabledCommands)
    (haccepts : c.acceptsParam = true) (hparam : Text.isBlankString param = false) :
    InlineAgrees s c param ↔ ∀ ch ∈ c.keyword.toList, Text.isBlank ch = false := by
  have hlist : (c.keyword ++ " " ++ param).toList = c.keyword.toList ++ ' ' :: param.toList := by
    simp
  have hquery : Text.isBlankString (c.keyword ++ " " ++ param) = false := by
    obtain ⟨ch, hch, hblank⟩ := Text.isBlankText_eq_false_iff.mp hparam
    rw [Text.isBlankString, hlist, Text.isBlankText_eq_false_iff]
    exact ⟨ch, List.mem_append_right _ (List.mem_cons_of_mem _ hch), hblank⟩
  constructor
  · rintro ⟨hit, hmem, hcommand, -, hagrees⟩
    obtain ⟨c', -, hmatch⟩ := (mem_matchCommands_iff hquery).mp hmem
    obtain ⟨hcommand', haction⟩ := matchCommand?_eq_some hmatch
    obtain rfl : c = c' := Option.some.inj (hcommand.symm.trans hcommand')
    have htyped : c.action param = hit.action := by
      have hreply := hagrees {} none rfl
      rw [replyTyped_eq rfl haccepts] at hreply
      exact Reply.execute.inj hreply
    -- Without a parameter the action is another one, so the keyword stands before the first blank.
    obtain hempty | ⟨head, tail, hinline, hkeyword⟩ := haction
    · exact absurd (htyped.trans hempty) (Command.action_ne_of_not_blank haccepts hparam)
    · rw [Text.equalIgnoringCase, String.toList_ofList, beq_iff_eq] at hkeyword
      exact Text.isBlank_of_lower_eq hkeyword (isBlank_of_inlineParam? hinline)
  · intro hkeyword
    -- Validity is needed for this alone: after an empty keyword the query is the parameter.
    have hne : c.keyword.toList ≠ [] := by
      have hblank := Settings.isBlankString_keyword hs (List.mem_of_mem_filter hc)
      intro hnil
      rw [Text.isBlankString, hnil] at hblank
      exact nomatch hblank
    have hinline : inlineParam? (Text.trimmed (c.keyword ++ " " ++ param)).toList =
        some (c.keyword.toList, Text.trim param.toList) := by
      rw [Text.toList_trimmed, hlist]
      exact inlineParam?_eq hne hkeyword hparam
    obtain ⟨group, hmatch⟩ := matchCommand?_of_inlineParam? (s := s) haccepts hinline
    refine ⟨_, (mem_matchCommands_iff hquery).mpr ⟨c, hc, hmatch⟩, rfl, rfl, ?_⟩
    intro b selected hb
    rw [replyTyped_eq hb haccepts, hit_action, ← Text.trimmed, Command.action_trimmed]

/-- A keyword without blanks, and a parameter with one. -/
theorem inlineAgrees_iff_gh :
    let search : Command :=
      { id := "github", keyword := "gh", displayName := "GitHub",
        template := "https://github.com/search?q=\x7bquery\x7d" }
    let s := { Settings.defaults {} with commands := [search] }
    s.check = .ok () ∧ search ∈ s.enabledCommands ∧ search.acceptsParam = true ∧
    Text.isBlankString "lean 4" = false ∧
    (InlineAgrees s search "lean 4" ↔
      ∀ ch ∈ search.keyword.toList, Text.isBlank ch = false) := by
  refine ⟨by decide +kernel, by decide +kernel, by decide +kernel, by decide, ?_⟩
  exact inlineAgrees_iff (by decide +kernel) (by decide +kernel) (by decide +kernel) (by decide)

/-- A keyword of two words, which is valid, finds nothing before a parameter. -/
theorem not_inlineAgrees_git_hub :
    let search : Command :=
      { id := "github", keyword := "git hub", displayName := "GitHub",
        template := "https://github.com/search?q=\x7bquery\x7d" }
    let s := { Settings.defaults {} with commands := [search] }
    s.check = .ok () ∧ search ∈ s.enabledCommands ∧ search.acceptsParam = true ∧
    Text.isBlankString "lean" = false ∧ ¬InlineAgrees s search "lean" := by
  intro search s
  have hnone : matchCommands s "git hub lean" = [] := by
    rw [← List.length_eq_zero_iff]
    decide +kernel
  refine ⟨by decide +kernel, by decide +kernel, by decide +kernel, by decide, ?_⟩
  rintro ⟨hit, hmem, -⟩
  exact absurd (hnone ▸ hmem) List.not_mem_nil

end QueryBox

end Launcher
