namespace Launcher.Text

/-!
# Letters, digits and hexadecimal digits of ASCII

* `lower`, `lowered`, `uppered` — change the case of the ASCII letters and keep every other
  character.
* `equalIgnoringCase` — equality up to the case of ASCII letters.
* `isDigit`, `hexValue?`, `hexDigit` — decimal and hexadecimal digits.

The rules of this module are about ASCII alone: `É` has no other case here.
-/

/-- A decimal digit. -/
def isDigit (c : Char) : Bool :=
  '0' ≤ c && c ≤ '9'

/-- An ASCII letter. -/
def isLetter (c : Char) : Bool :=
  ('a' ≤ c && c ≤ 'z') || ('A' ≤ c && c ≤ 'Z')

/-- An ASCII letter or digit. -/
def isAlphanumeric (c : Char) : Bool :=
  isLetter c || isDigit c

/-- The value of a decimal digit. -/
def digitValue (c : Char) : Nat :=
  c.toNat - '0'.toNat

/-- The digit of a value below ten. -/
def digitChar (n : Nat) : Char :=
  Char.ofNat ('0'.toNat + n)

/-- The value of a hexadecimal digit in either case. -/
def hexValue? (c : Char) : Option Nat :=
  if isDigit c then some (c.toNat - '0'.toNat)
  else if 'a' ≤ c && c ≤ 'f' then some (c.toNat - 'a'.toNat + 10)
  else if 'A' ≤ c && c ≤ 'F' then some (c.toNat - 'A'.toNat + 10)
  else none

/-- The lower-case hexadecimal digit of a value below sixteen. -/
def hexDigit (n : Nat) : Char :=
  if n < 10 then Char.ofNat ('0'.toNat + n) else Char.ofNat ('a'.toNat + (n - 10))

/-- The upper-case hexadecimal digit of a value below sixteen. -/
def upperHexDigit (n : Nat) : Char :=
  if n < 10 then Char.ofNat ('0'.toNat + n) else Char.ofNat ('A'.toNat + (n - 10))

/-- The two lower-case hexadecimal digits of a byte. -/
def hexByte (b : UInt8) : List Char :=
  [hexDigit (b.toNat / 16), hexDigit (b.toNat % 16)]

/-! ### Case -/

/-- The lower-case form of an ASCII letter, and any other character itself. -/
def lowerChar (c : Char) : Char :=
  if 'A' ≤ c && c ≤ 'Z' then Char.ofNat (c.toNat + 32) else c

/-- The upper-case form of an ASCII letter, and any other character itself. -/
def upperChar (c : Char) : Char :=
  if 'a' ≤ c && c ≤ 'z' then Char.ofNat (c.toNat - 32) else c

/-- The text with its ASCII letters in lower case. -/
def lower (s : List Char) : List Char :=
  s.map lowerChar

/-- The string with its ASCII letters in lower case. -/
def lowered (s : String) : String :=
  String.ofList (lower s.toList)

/-- The string with its ASCII letters in upper case. -/
def uppered (s : String) : String :=
  String.ofList (s.toList.map upperChar)

/-- Two strings are equal up to the case of their ASCII letters. -/
def equalIgnoringCase (s t : String) : Bool :=
  lower s.toList == lower t.toList

@[simp] theorem length_lower (s : List Char) : (lower s).length = s.length := by
  simp [lower]

@[simp] theorem toList_lowered (s : String) : (lowered s).toList = lower s.toList := by
  simp [lowered]

example : lowered "ÉaZ9" = "Éaz9" ∧ uppered "éaZ9" = "éAZ9" := by decide

end Launcher.Text
