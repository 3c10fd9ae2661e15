import Launcher.Decimal.Fixed

namespace Launcher.Arith

/-!
# How a value is shown

* `display` — a double with at most three places and no zeros at their end.
-/

/-- The text up to its last character that is not `c`. -/
def dropTrailing (c : Char) (s : List Char) : List Char :=
  (s.reverse.dropWhile (· == c)).reverse

/-- The text without the zeros that end its places, and without a point that ends it. -/
def stripPlaces (s : List Char) : List Char :=
  if s.contains '.' then dropTrailing '.' (dropTrailing '0' s) else s

/-- Zero has no sign. -/
def unsignedZero (s : List Char) : List Char :=
  if s = ['-', '0'] then ['0'] else s

/-- A whole number below `10 ^ 15` is shown without a point, any other number rounded to three
places. -/
def display (x : Float) : List Char :=
  if Decimal.isIntegral x && x.abs < 1e15 then unsignedZero (Decimal.fixed 0 x)
  else unsignedZero (stripPlaces (Decimal.fixed 3 x))

/-- A number as shown to the user. -/
def displayed (x : Float) : String :=
  String.ofList (display x)

end Launcher.Arith
