import Launcher.Measure.Basic
import Launcher.Text.Blank
import Launcher.Text.Lowercase

namespace Launcher.Measure

/-!
# The table of units

* `table` — every unit that can be named, in the order in which names are looked up.
* `lookup?` — the unit that a name or an alias stands for.
* `convertNamed` — an amount taken from one named unit to another.
-/

/-- A unit that is a multiple of the base unit of its category. -/
def scaled (symbol : String) (category : Category) (factor : Float) (aliases : List String) :
    Measure :=
  ⟨symbol, category, .factor factor, aliases⟩

/-- The units. The base units are the metre, the kilogram, the square metre, the litre and, for
temperatures, the degree Celsius. -/
def table : List Measure := [
  scaled "mm" .length 0.001 ["millimeter", "millimeters", "millimetre", "millimetres"],
  scaled "cm" .length 0.01 ["centimeter", "centimeters", "centimetre", "centimetres"],
  scaled "m" .length 1.0 ["meter", "meters", "metre", "metres"],
  scaled "km" .length 1000.0 ["kilometer", "kilometers", "kilometre", "kilometres"],
  scaled "in" .length 0.0254 ["inch", "inches"],
  scaled "ft" .length 0.3048 ["foot", "feet"],
  scaled "yd" .length 0.9144 ["yard", "yards"],
  scaled "mi" .length 1609.344 ["mile", "miles"],
  scaled "nmi" .length 1852.0 ["nauticalmile", "nauticalmiles"],
  scaled "mg" .weight 0.000001 ["milligram", "milligrams"],
  scaled "g" .weight 0.001 ["gram", "grams"],
  scaled "kg" .weight 1.0 ["kilogram", "kilograms", "kilo", "kilos"],
  scaled "t" .weight 1000.0 ["tonne", "tonnes", "ton", "tons"],
  scaled "oz" .weight 0.028349523125 ["ounce", "ounces"],
  scaled "lb" .weight 0.45359237 ["lbs", "pound", "pounds"],
  scaled "st" .weight 6.35029318 ["stone", "stones"],
  scaled "cm2" .area 0.0001 ["sqcm"],
  scaled "m2" .area 1.0 ["sqm"],
  scaled "km2" .area 1000000.0 ["sqkm"],
  scaled "ft2" .area 0.09290304 ["sqft"],
  scaled "mi2" .area 2589988.110336 ["sqmi"],
  scaled "ha" .area 10000.0 ["hectare", "hectares"],
  scaled "ac" .area 4046.8564224 ["acre", "acres"],
  scaled "ml" .volume 0.001 ["milliliter", "milliliters", "millilitre", "millilitres"],
  scaled "l" .volume 1.0 ["liter", "liters", "litre", "litres"],
  scaled "m3" .volume 1000.0 ["cubicmeter", "cubicmeters"],
  scaled "gal" .volume 3.785411784 ["gallon", "gallons"],
  scaled "qt" .volume 0.946352946 ["quart", "quarts"],
  scaled "pt" .volume 0.473176473 ["pint", "pints"],
  scaled "cup" .volume 0.2365882365 ["cups"],
  scaled "floz" .volume 0.0295735295625 ["fluidounce", "fluidounces"],
  scaled "tbsp" .volume 0.01478676478125 ["tablespoon", "tablespoons"],
  scaled "tsp" .volume 0.00492892159375 ["teaspoon", "teaspoons"],
  ⟨"°C", .temperature, .celsius, ["c", "celsius", "degc"]⟩,
  ⟨"°F", .temperature, .fahrenheit, ["f", "fahrenheit", "degf"]⟩,
  ⟨"K", .temperature, .kelvin, ["k", "kelvin"]⟩]

/-- A raised two or three is the digit. -/
def plainDigit : Char → Char
  | '²' => '2'
  | '³' => '3'
  | c => c

/-- A unit name without regard to case, surrounding blanks and raised digits. -/
def normalizeName (name : String) : String :=
  String.ofList ((Text.lowercase (Text.trim name.toList)).map plainDigit)

/-- The first unit whose symbol or alias a name is. -/
def lookup? (name : String) : Option Measure :=
  let key := normalizeName name
  if key.isEmpty then none
  else table.find? fun unit => Text.equalIgnoringCase unit.symbol key || unit.aliases.contains key

/-- An amount taken from one named unit to another. -/
def convertNamed (amount : Float) (source target : String) : Except Fault Float := do
  let some m := lookup? source | throw (.unknownUnit source)
  let some n := lookup? target | throw (.unknownUnit target)
  convert amount m n

end Launcher.Measure
