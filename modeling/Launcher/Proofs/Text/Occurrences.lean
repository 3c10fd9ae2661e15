import Launcher.Proofs.Text.Pieces

namespace Launcher.Text

/-!
# The leftmost occurrences of a mark

* `IsFirstCut` — a text is cut at the leftmost occurrence of a mark, as it is by `cutAt?`.
* `IsCut` — the pieces of a text between the leftmost occurrences of a mark that do not overlap.
* `isCut_iff` — `splitOn` finds those pieces, and no others meet the description.
* `infix_trim_iff` — a mark without blanks at its ends is not lost when a text is trimmed.

To replace a mark in a text is to cut the text at the mark and to put something else between the
pieces. If a mark may overlap itself, it matters which occurrences are taken. `IsCut` says so
without the function that does it: the leftmost one first, and then the leftmost ones in what
follows. It is an inductive description, and it determines the pieces (`IsCut.unique`), so a theorem
that uses it says all there is to say about them.

Both proofs go along the text. At each character the mark begins there, and then it is the leftmost
one, or it does not, and then every occurrence is one of the rest.
-/

variable {mark s before after before' after' : List Char} {pieces : List (List Char)}

/-! ### The first occurrence -/

/-- A text is cut at the leftmost occurrence of a mark. -/
structure IsFirstCut (mark s before after : List Char) : Prop where
  eq_append : s = before ++ mark ++ after
  leftmost : ∀ before' after', s = before' ++ mark ++ after' → before.length ≤ before'.length

/-- There is one leftmost occurrence. -/
theorem IsFirstCut.unique (h : IsFirstCut mark s before after)
    (h' : IsFirstCut mark s before' after') : before = before' ∧ after = after' := by
  have hle := h.leftmost _ _ h'.eq_append
  have hge := h'.leftmost _ _ h.eq_append
  have heq : before ++ (mark ++ after) = before' ++ (mark ++ after') := by
    rw [← List.append_assoc, ← List.append_assoc, ← h.eq_append, ← h'.eq_append]
  obtain ⟨hbefore, hrest⟩ := List.append_inj heq (by omega)
  exact ⟨hbefore, List.append_cancel_left hrest⟩

/-- No occurrence begins before the one that is found. -/
theorem leftmost_of_cutAt? (h : cutAt? mark s = some (before, after))
    (hs : s = before' ++ mark ++ after') : before.length ≤ before'.length := by
  induction s generalizing before before' with
  | nil =>
    -- In the empty text only the empty mark occurs, at the beginning.
    simp only [cutAt?, Option.map_eq_some_iff, Prod.mk.injEq] at h
    obtain ⟨-, -, rfl, -⟩ := h
    simp
  | cons c s ih =>
    simp only [cutAt?] at h
    split at h
    next rest hrest =>
      obtain ⟨rfl, -⟩ := Prod.mk.inj (Option.some.inj h)
      simp
    next hnone =>
      obtain ⟨⟨front, _⟩, hcut, heq⟩ := Option.map_eq_some_iff.mp h
      obtain ⟨rfl, rfl⟩ := Prod.mk.inj heq
      -- The mark does not stand at the very beginning, so any occurrence is one of the tail.
      cases before' with
      | nil =>
        rw [List.nil_append] at hs
        rw [stripStart?_eq_some_iff.mpr hs] at hnone
        cases hnone
      | cons d before' => simpa using ih hcut (List.cons.inj hs).2

/-- A text is cut at the leftmost occurrence of a mark. -/
theorem isFirstCut_of_cutAt? (h : cutAt? mark s = some (before, after)) :
    IsFirstCut mark s before after :=
  ⟨eq_append_of_cutAt? h, fun _ _ hs => leftmost_of_cutAt? h hs⟩

theorem cutAt?_eq_none_iff : cutAt? mark s = none ↔ ¬mark <:+: s := by
  rw [← isInfix_iff, isInfix, Option.not_isSome_iff_eq_none]

/-! ### All occurrences -/

/-- The pieces of a text between the leftmost occurrences of a mark that do not overlap: what stands
before the first one is a piece, and what follows it is cut in turn. A text without the mark is one
piece. -/
inductive IsCut (mark : List Char) : List Char → List (List Char) → Prop
  | whole {s : List Char} (h : ¬mark <:+: s) : IsCut mark s [s]
  | cut {s before after : List Char} {pieces : List (List Char)}
      (hfirst : IsFirstCut mark s before after) (hafter : IsCut mark after pieces) :
      IsCut mark s (before :: pieces)

/-- The pieces that are found are such pieces. -/
theorem isCut_splitOn (hmark : mark ≠ []) (s : List Char) : IsCut mark s (splitOn mark s) := by
  -- The pieces are found by the recursion that the description has.
  fun_induction splitOn mark s with
  | case1 s hnil => exact absurd hnil hmark
  | case2 s _ hcut => exact .whole (cutAt?_eq_none_iff.mp hcut)
  | case3 s _ before after hcut ih => exact .cut (isFirstCut_of_cutAt? hcut) ih

/-- There is one way to cut a text. -/
theorem IsCut.unique {pieces' : List (List Char)} (h : IsCut mark s pieces)
    (h' : IsCut mark s pieces') : pieces = pieces' := by
  induction h generalizing pieces' with
  | whole hnone =>
    cases h' with
    | whole => rfl
    | cut hfirst => exact absurd ⟨_, _, hfirst.eq_append.symm⟩ hnone
  | cut hfirst _ ih =>
    cases h' with
    | whole hnone => exact absurd ⟨_, _, hfirst.eq_append.symm⟩ hnone
    | cut hfirst' hafter' =>
      obtain ⟨rfl, rfl⟩ := hfirst.unique hfirst'
      rw [ih hafter']

/-- **The pieces between the leftmost occurrences** of a mark are those that `splitOn` finds. -/
theorem isCut_iff (hmark : mark ≠ []) : IsCut mark s pieces ↔ pieces = splitOn mark s := by
  constructor
  · exact fun h => h.unique (isCut_splitOn hmark s)
  · rintro rfl
    exact isCut_splitOn hmark s

/-! ### Occurrences in trimmed texts -/

/-- A mark that begins with no blank is not lost at the beginning. -/
theorem infix_trimStart (hmark : mark ≠ []) (hstart : trimStart mark = mark) (h : mark <:+: s) :
    mark <:+: trimStart s := by
  obtain ⟨before, after, rfl⟩ := h
  have hkeep : trimStart (mark ++ after) = mark ++ after := by
    rw [trimStart_eq_self_iff, List.head?_append_of_ne_nil mark hmark]
    exact trimStart_eq_self_iff.mp hstart
  -- Blanks are dropped from what stands before the mark, and no further.
  rw [List.append_assoc, trimStart, List.dropWhile_append]
  split
  next =>
    rw [← trimStart, hkeep]
    exact (List.prefix_append mark after).isInfix
  next => exact ⟨_, after, List.append_assoc ..⟩

/-- One that ends with none is not lost at the end. -/
theorem infix_trimEnd (hmark : mark ≠ []) (hend : trimEnd mark = mark) (h : mark <:+: s) :
    mark <:+: trimEnd s := by
  -- The end of a text is the start of the reversed one.
  have hstart : trimStart mark.reverse = mark.reverse := List.reverse_eq_iff.mp hend
  have hreverse := infix_trimStart (List.reverse_ne_nil_iff.mpr hmark) hstart
    (List.reverse_infix.mpr h)
  rw [trimEnd, ← List.reverse_infix, List.reverse_reverse]
  exact hreverse

/-- **A trimmed mark occurs in a text as it does in the trimmed text.** -/
theorem infix_trim_iff (hmark : mark ≠ []) (htrim : trim mark = mark) :
    mark <:+: trim s ↔ mark <:+: s := by
  obtain ⟨hstart, hend⟩ := trim_eq_self_iff.mp htrim
  constructor
  · intro h
    obtain ⟨front, back, -, -, hs⟩ := exists_eq_append_trim s
    have hpart : trim s <:+: s := ⟨front, back, (hs.trans (List.append_assoc ..).symm).symm⟩
    exact h.trans hpart
  · exact fun h => infix_trimEnd hmark hend (infix_trimStart hmark hstart h)

end Launcher.Text
