namespace Launcher

/-!
# Units of measure

* `Measure` — a unit: its symbol, its category, its scale and its further names.
* `Measure.convert` — an amount taken from one unit to another of the same category.
-/

/-- What a unit measures. -/
inductive Measure.Category where
  | length
  | weight
  | temperature
  | area
  | volume
deriving Repr, DecidableEq

/-- How amounts of a unit relate to the base unit of the category. -/
inductive Measure.Scale where
  | factor (value : Float)
  | celsius
  | fahrenheit
  | kelvin
deriving Repr

/-- A unit. -/
structure Measure where
  symbol : String
  category : Measure.Category
  scale : Measure.Scale
  /-- Further names, in lower case. -/
  aliases : List String
deriving Repr

namespace Measure

/-- Why an amount cannot be converted. -/
inductive Fault where
  | unknownUnit (name : String)
  | categoryMismatch (source target : String)
deriving Repr, DecidableEq

/-- The wording of a fault. -/
def Fault.message : Fault → String
  | .unknownUnit name => s!"unknown unit '{name}'"
  | .categoryMismatch source target => s!"cannot convert {source} to {target}: different categories"

/-- The temperature in degrees Celsius. -/
def toCelsius (scale : Scale) (value : Float) : Float :=
  match scale with
  | .fahrenheit => (value - 32.0) * 5.0 / 9.0
  | .kelvin => value - 273.15
  | .celsius | .factor _ => value

/-- The temperature in degrees of another scale. -/
def ofCelsius (scale : Scale) (value : Float) : Float :=
  match scale with
  | .fahrenheit => value * 9.0 / 5.0 + 32.0
  | .kelvin => value + 273.15
  | .celsius | .factor _ => value

/-- An amount taken from one unit to another of the same category: through the base unit by two
factors, or through degrees Celsius. -/
def convert (amount : Float) (source target : Measure) : Except Fault Float :=
  if source.category ≠ target.category then
    .error (.categoryMismatch source.symbol target.symbol)
  else
    match source.scale, target.scale with
    | .factor m, .factor n => .ok (amount * m / n)
    | m, n => .ok (ofCelsius n (toCelsius m amount))

end Measure

end Launcher
