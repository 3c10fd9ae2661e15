import Launcher.Command.Basic
import Launcher.Proofs.Text.Occurrences
import Launcher.Proofs.Text.Percent

namespace Launcher

/-!
# Parameters in templates

The template of a command holds a placeholder, maybe several times, and a parameter takes its place.
The parameter is a text of the user: it may hold the placeholder itself, or signs that mean
something in a URL. That it is put in literally means that the template is cut first, at the
placeholders that it holds, and that what stands between the pieces afterwards is never looked at
again.

* `Command.acceptsParam_iff` — a command accepts a parameter if its template holds the placeholder.
* `Command.IsWrittenParam` — how a parameter is written where it is put in: trimmed, and in a URL
  encoded so that it can be decoded again.
* `Command.action_ne_of_not_blank` — a parameter that is not blank shows in the action.
* `Command.substitutes_literally` — the template is cut at the placeholders, whatever the parameter
  is, and put together again with the parameter in their place.

That there is one way only to cut a template, even if the placeholder overlaps itself, is
`Text.IsCut` and its uniqueness.
-/

/-- Whatever its kind, an action is about its target. -/
theorem CommandKind.target_action (kind : CommandKind) (target : String) :
    (kind.action target).target = target := by
  cases kind <;> rfl

namespace Command

variable {c : Command} {param : String}

/-! ### Targets -/

/-- The target of the action is the template with the parameter in it. -/
theorem target_action (c : Command) (param : String) :
    (c.action param).target = c.resolvedTarget param := by
  rw [action, CommandKind.target_action]

/-- A command accepts a parameter if its template holds the placeholder. -/
theorem acceptsParam_iff :
    c.acceptsParam = true ↔ c.placeholder ≠ "" ∧ c.placeholder.toList <:+: c.template.toList := by
  rw [acceptsParam, Bool.and_eq_true, Bool.not_eq_true', String.isEmpty_eq_false_iff,
    Text.isInfix_iff]

/-- An empty placeholder accepts nothing. -/
theorem placeholder_ne_nil (hc : c.acceptsParam = true) : c.placeholder.toList ≠ [] :=
  fun hnil => (acceptsParam_iff.mp hc).1 (String.toList_eq_nil_iff.mp hnil)

/-- In a template with the placeholder, the written parameter replaces it. -/
theorem resolvedTarget_of_accepts (hc : c.acceptsParam = true) (param : String) :
    c.resolvedTarget param = Text.replaceAllIn c.placeholder (c.paramText param) c.template := by
  rw [resolvedTarget, if_pos hc]

/-- Any other template stays as it is. -/
theorem resolvedTarget_of_refuses (hc : c.acceptsParam = false) (param : String) :
    c.resolvedTarget param = c.template := by
  rw [resolvedTarget, hc, if_neg Bool.false_ne_true]

/-! ### Written parameters -/

/-- An empty parameter is written as nothing. -/
theorem paramText_empty (c : Command) : c.paramText "" = "" := by
  unfold paramText
  split <;> rfl

/-- A parameter that is not blank is written as something. -/
theorem toList_paramText_ne_nil (h : Text.isBlankString param = false) :
    (c.paramText param).toList ≠ [] := by
  have htrim : (Text.trimmed param).toList ≠ [] := by
    rw [Text.toList_trimmed, ne_eq, Text.trim_eq_nil_iff]
    exact Bool.eq_false_iff.mp h
  unfold paramText
  split
  next =>
    rw [Text.Percent.encoded, String.toList_ofList]
    exact Text.Percent.encode_ne_nil htrim
  next => exact htrim

/-- A parameter that is not blank shows in the action of a command that accepts it. -/
theorem action_ne_of_not_blank (hc : c.acceptsParam = true)
    (h : Text.isBlankString param = false) : c.action param ≠ c.action "" := by
  intro heq
  -- Equal actions have equal targets, but the one with the parameter in it is longer.
  have htarget := congrArg Action.target heq
  rw [target_action, target_action, resolvedTarget_of_accepts hc, resolvedTarget_of_accepts hc,
    paramText_empty, Text.replaceAllIn, Text.replaceAllIn, String.ofList_inj] at htarget
  have hinfix := Text.isInfix_iff.mpr (acceptsParam_iff.mp hc).2
  exact Text.replaceAll_ne (placeholder_ne_nil hc) hinfix (toList_paramText_ne_nil h) htarget

/-- The blanks around a parameter do not matter. -/
theorem action_trimmed (c : Command) (param : String) :
    c.action (Text.trimmed param) = c.action param := by
  simp only [action, resolvedTarget, paramText, Text.trimmed_trimmed]

/-- How a command writes a parameter: trimmed, and percent-encoded in a URL, from which it can be
decoded again. -/
structure IsWrittenParam (c : Command) (param value : String) : Prop where
  plain : c.kind ≠ .url → value = Text.trimmed param
  encoded : c.kind = .url → value = Text.Percent.encoded false (Text.trimmed param)
  decoded : c.kind = .url → Text.Percent.decoded value = Text.trimmed param

/-- A command writes its parameter so. -/
theorem isWrittenParam_paramText (c : Command) (param : String) :
    c.IsWrittenParam param (c.paramText param) := by
  have hencoded (h : c.kind = .url) :
      c.paramText param = Text.Percent.encoded false (Text.trimmed param) := by
    simp [paramText, h]
  refine ⟨?_, hencoded, ?_⟩
  · intro h
    unfold paramText
    split
    next hurl => exact absurd hurl h
    next => rfl
  · intro h
    rw [hencoded h, Text.Percent.decoded_encoded]

/-! ### Main theorem -/

/-- **Parameters are substituted literally.** The pieces of the template are found before any
parameter is known, so a placeholder in the parameter stays as it is; they are put together with the
written parameter between each two of them. A command that accepts no parameter keeps its
template. -/
theorem substitutes_literally (c : Command) :
    (c.acceptsParam = true ↔
      c.placeholder ≠ "" ∧ c.placeholder.toList <:+: c.template.toList) ∧
    (c.acceptsParam = true →
      ∃ pieces, Text.IsCut c.placeholder.toList c.template.toList pieces ∧
        (∀ other, Text.IsCut c.placeholder.toList c.template.toList other → other = pieces) ∧
        ∀ param, ∃ value, c.IsWrittenParam param value ∧
          (c.action param).target = String.ofList (Text.joinWith value.toList pieces)) ∧
    (c.acceptsParam = false → ∀ param, (c.action param).target = c.template) := by
  refine ⟨acceptsParam_iff, ?_, ?_⟩
  · intro hc
    have hmark := placeholder_ne_nil hc
    refine ⟨_, (Text.isCut_iff hmark).mpr rfl, fun _ => (Text.isCut_iff hmark).mp, fun param => ?_⟩
    refine ⟨_, isWrittenParam_paramText c param, ?_⟩
    rw [target_action, resolvedTarget_of_accepts hc]
    rfl
  · intro hc param
    rw [target_action, resolvedTarget_of_refuses hc]

/-- A placeholder that overlaps itself, and a parameter that holds it. -/
example : ({ kind := .shell, template := "echo aaa", placeholder := "aa" } : Command).action " aab " =
    .runShell "echo aaba" := by
  cbv

end Command

end Launcher
