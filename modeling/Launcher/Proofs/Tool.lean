import Launcher.Proofs.Text.Percent
import Launcher.Tool

namespace Launcher.Tool

/-!
# Calls of tools

A query calls a tool by a word with an argument behind it, or by a `>`. Two facts about calls are
used where queries are interpreted, and where the url tool is used twice.

* `Call.parse?_trim` — blanks around a query say nothing about its call. At the end this takes an
  argument: a word that only blanks follow is still cut off from them, and calls nothing.
* `toggleUrl_toggleUrl` — a text without escapes is made again of what the url tool makes of it. The
  tool decides by its input whether to encode or to decode, so the point is what it finds in the
  encoded text.
* `run_url_twice` — the same for two calls of the tool, the second on the result of the first.
-/

/-! ### Blanks around a query -/

/-- An argument is trimmed at its end. -/
theorem call?_trimEnd (tool : Tool) (s : List Char) : call? tool (Text.trimEnd s) = call? tool s := by
  unfold call?
  rw [Text.trim_trimEnd]

/-- A blank argument calls no tool. -/
theorem call?_of_blank (tool : Tool) {s : List Char} (h : Text.isBlankText s = true) :
    call? tool s = none := by
  unfold call?
  rw [Text.trim_eq_nil_iff.mpr h]
  rfl

namespace Call

variable {query rest : List Char}

/-- A `>` calls the shell. -/
theorem parse?_of_angle (h : Text.trimStart query = '>' :: rest) :
    parse? query = call? .shell rest := by
  unfold parse?
  rw [h]
  rfl

/-- Without it, the first word is that of a tool. -/
theorem parse?_of_ne_angle (h : ∀ rest, Text.trimStart query ≠ '>' :: rest) :
    parse? query = (Text.splitAtBlank? (Text.trimStart query)).bind fun cut =>
      (ofWord? cut.1).bind fun tool => call? tool cut.2 := by
  unfold parse?
  split
  next rest hrest => exact absurd hrest (h rest)
  next => rfl

/-- **Blanks around a query** say nothing about its call: an argument is trimmed, and a word that only
blanks follow calls no tool. -/
theorem parse?_trim (query : List Char) : parse? (Text.trim query) = parse? query := by
  have hstart : Text.trimStart (Text.trim query) = Text.trimEnd (Text.trimStart query) := by
    rw [Text.trim, Text.trimStart_trimEnd]
    exact congrArg Text.trimEnd (List.dropWhile_idempotent Text.isBlank query)
  by_cases hangle : ∃ rest, Text.trimStart query = '>' :: rest
  · obtain ⟨rest, hrest⟩ := hangle
    rw [hrest, Text.trimEnd_cons (by decide)] at hstart
    rw [parse?_of_angle hstart, parse?_of_angle hrest, call?_trimEnd]
  · have hne : ∀ rest, Text.trimStart query ≠ '>' :: rest := fun rest h => hangle ⟨rest, h⟩
    have hne' : ∀ rest, Text.trimStart (Text.trim query) ≠ '>' :: rest := by
      -- Both texts begin alike.
      intro rest h
      have hhead : (Text.trimStart query).head? = some '>' := by
        rw [← Text.head?_trim, Text.trim, ← hstart, h]
        rfl
      obtain ⟨rest', hrest'⟩ := List.head?_eq_some_iff.mp hhead
      exact hne rest' hrest'
    rw [parse?_of_ne_angle hne, parse?_of_ne_angle hne', hstart, Text.splitAtBlank?_trimEnd]
    -- A word that only blanks follow is cut off in the query, but its argument is empty.
    cases Text.splitAtBlank? (Text.trimStart query) with
    | none => rfl
    | some cut =>
      rw [Option.bind_some, Option.bind_some]
      split
      next hblank =>
        cases ofWord? cut.1 with
        | none => rfl
        | some tool => exact (call?_of_blank tool hblank).symm
      next =>
        rw [Option.bind_some]
        exact Option.bind_congr fun tool _ => call?_trimEnd tool cut.2

end Call

/-! ### The url tool -/

open Text.Percent (encode decode_encode decode_of_hasEscape)

/-- If the encoded text has an escape, it is decoded. If it has none, nothing had to be encoded, and
the second run changes nothing either. -/
theorem toggleUrl_toggleUrl {s : List Char} (h : Text.Percent.hasEscape s = false) :
    toggleUrl (toggleUrl s) = s := by
  have hfirst : toggleUrl s = encode false s := by
    rw [toggleUrl, if_neg (Bool.eq_false_iff.mp h)]
  cases hescape : Text.Percent.hasEscape (encode false s) with
  | true =>
    calc toggleUrl (toggleUrl s)
        = toggleUrl (encode false s) := by rw [hfirst]
      _ = Text.Percent.decode (encode false s) := by rw [toggleUrl, if_pos hescape]
      _ = s := decode_encode s
  | false =>
    -- The decoder leaves the encoded text as it is, and yet gives the text back.
    have hsame : encode false s = s := (decode_of_hasEscape hescape).symm.trans (decode_encode s)
    rw [hfirst, hsame, hfirst, hsame]

/-- **The url tool undoes itself**: run on a text without escapes and then on the result, it has the
text as its result. -/
theorem run_url_twice (s : String) (h : Text.Percent.hasEscape s.toList = false) :
    (do Call.run ⟨.url, ← Call.run ⟨.url, s⟩⟩) = .ok s := by
  have hrun (t : String) : Call.run ⟨.url, t⟩ = .ok (String.ofList (toggleUrl t.toList)) := rfl
  calc (do Call.run ⟨.url, ← Call.run ⟨.url, s⟩⟩)
      = Call.run ⟨.url, String.ofList (toggleUrl s.toList)⟩ := by rw [hrun s]; rfl
    _ = .ok (String.ofList (toggleUrl (toggleUrl s.toList))) := by rw [hrun, String.toList_ofList]
    _ = .ok s := by rw [toggleUrl_toggleUrl h, String.ofList_toList]

/-- A text with percent signs that begin no escape, and with a letter of two bytes. -/
theorem run_url_twice_stray_percent :
    let s := "100% of 5%4g+é"
    Text.Percent.hasEscape s.toList = false ∧
      (do Call.run ⟨.url, ← Call.run ⟨.url, s⟩⟩) = .ok s := by
  intro s
  have h : Text.Percent.hasEscape s.toList = false := by decide +kernel
  exact ⟨h, run_url_twice s h⟩

end Launcher.Tool
