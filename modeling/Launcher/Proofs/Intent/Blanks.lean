import Launcher.Proofs.Intent
import Launcher.Proofs.Tool

namespace Launcher

/-!
# Blanks around a query

What blanks stand around a query is an accident of typing, and must not change what it means. Each
interpreter trims the query in its own place: some at the beginning of their work, some in the parts
that they cut off. So each of them has its own lemma, and the rest follows from those.

* `Interpreter.read?_trim` — to no interpreter do the blanks around a query mean anything.
* `Intent.text?` — the text of a query that is interpreted as a whole; `Intent.text_of_classify`
  says that it is the trimmed query.
* `Intent.classify_stable` — a query means what it means without the blanks around it, and so does
  the text that is interpreted as a whole.
-/

/-- A conversion is read from the trimmed query. -/
theorem Conversion.parse?_trim (query : List Char) :
    Conversion.parse? (Text.trim query) = Conversion.parse? query := by
  unfold Conversion.parse?
  rw [Text.trim_trim]

/-- So is an expression. -/
theorem Arith.looksLikeExpression_trim (query : List Char) :
    Arith.looksLikeExpression (Text.trim query) = Arith.looksLikeExpression query := by
  unfold Arith.looksLikeExpression
  rw [Text.trim_trim]

/-- **To no interpreter** do the blanks around a query mean anything. -/
theorem Interpreter.read?_trim (i : Interpreter) (query : List Char) :
    i.read? (Text.trim query) = i.read? query := by
  cases i with
  | tool =>
    show (Tool.Call.parse? (Text.trim query)).map Intent.tool = (Tool.Call.parse? query).map .tool
    rw [Tool.Call.parse?_trim]
  | color =>
    unfold read?
    dsimp only
    rw [Color.looksLikeColor_trim, Text.trim_trim]
  | conversion =>
    show (Conversion.parse? (Text.trim query)).map Intent.conversion =
      (Conversion.parse? query).map .conversion
    rw [Conversion.parse?_trim]
  | arithmetic =>
    unfold read?
    dsimp only
    rw [Arith.looksLikeExpression_trim, Text.trim_trim]

namespace Intent

variable {query : List Char} {text : String}

/-- A query means what it means without the blanks around it. -/
theorem classify_trim (query : List Char) : classify (Text.trim query) = classify query := by
  rw [classify_eq_tryIn, classify_eq_tryIn]
  unfold tryIn
  rw [Text.trim_trim]
  simp only [List.findSome?_cons, Interpreter.read?_trim]

/-- The text of a query that is interpreted as a whole: a color, an expression or free text. -/
def text? : Intent → Option String
  | .color text | .arithmetic text | .freeText text => some text
  | .tool _ | .conversion _ => none

/-- A text that is interpreted as a whole is the query without the blanks around it. -/
theorem text_of_classify (h : (classify query).text? = some text) :
    text = String.ofList (Text.trim query) := by
  -- In the order in which the interpreters are tried: tools and conversions have no text.
  unfold classify at h
  split at h
  next => exact nomatch h
  next =>
    dsimp only at h
    split at h
    next => exact (Option.some.inj h).symm
    next =>
      split at h
      next => exact nomatch h
      next =>
        split at h
        next => exact (Option.some.inj h).symm
        next => exact (Option.some.inj h).symm

/-- **Classification is stable.** A query means what it means without the blanks around it; and if it
is interpreted as a whole, its text means the same again. -/
theorem classify_stable (query : List Char) :
    classify (Text.trim query) = classify query ∧
      ∀ text, (classify query).text? = some text → classify text.toList = classify query := by
  refine ⟨classify_trim query, fun text h => ?_⟩
  rw [text_of_classify h, String.toList_ofList, classify_trim]

/-- An expression with an ideographic space before and a tab behind it. -/
theorem classify_stable_expression :
    let query := "\u3000(1 + 2)\t".toList
    (classify query).text? = some "(1 + 2)" ∧ classify "(1 + 2)".toList = classify query := by
  intro query
  have htext : (classify query).text? = some "(1 + 2)" := by decide +kernel
  exact ⟨htext, (classify_stable query).2 _ htext⟩

end Intent

end Launcher
