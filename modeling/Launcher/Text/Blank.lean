namespace Launcher.Text

/-!
# Blank characters and trimming

* `isBlank` — the characters with the Unicode property White_Space.
* `trimStart`, `trimEnd`, `trim` — drop the blank characters at one end, or at both.
* `words` — the maximal runs of characters that are not blank.
* `splitAtBlank?` — what stands before and after the first blank character.

Each operation is stated on lists of characters, and on strings through `String.toList`.
-/

/-- The code points with the Unicode property White_Space, as inclusive ranges. -/
def blankRanges : List (Nat × Nat) :=
  [(0x09, 0x0D), (0x20, 0x20), (0x85, 0x85), (0xA0, 0xA0), (0x1680, 0x1680), (0x2000, 0x200A),
   (0x2028, 0x2029), (0x202F, 0x202F), (0x205F, 0x205F), (0x3000, 0x3000)]

/-- A character is blank if it has the Unicode property White_Space. -/
def isBlank (c : Char) : Bool :=
  blankRanges.any fun r => r.1 ≤ c.toNat && c.toNat ≤ r.2

example : isBlank ' ' = true ∧ isBlank '\u3000' = true ∧ isBlank '\u200b' = false := by decide

/-! ### Trimming lists of characters -/

/-- The characters from the first one on that is not blank. -/
def trimStart (s : List Char) : List Char :=
  s.dropWhile isBlank

/-- The characters up to the last one that is not blank. -/
def trimEnd (s : List Char) : List Char :=
  (s.reverse.dropWhile isBlank).reverse

/-- The characters between the first and the last one that is not blank. -/
def trim (s : List Char) : List Char :=
  trimEnd (trimStart s)

@[simp] theorem trimStart_nil : trimStart [] = [] := rfl

@[simp] theorem trimEnd_nil : trimEnd [] = [] := rfl

@[simp] theorem trim_nil : trim [] = [] := rfl

/-- A text is blank if every character of it is. -/
def isBlankText (s : List Char) : Bool :=
  s.all isBlank

/-- What stands before and after the first blank character, if there is one. -/
def splitAtBlank? (s : List Char) : Option (List Char × List Char) :=
  match s.dropWhile (!isBlank ·) with
  | [] => none
  | _ :: after => some (s.takeWhile (!isBlank ·), after)

/-- The maximal runs of characters that are not blank, in order. -/
def words (s : List Char) : List (List Char) :=
  (s.splitBy fun a b => isBlank a == isBlank b).filter fun run => !run.all isBlank

/-! ### Trimming strings -/

/-- The string between its first and its last character that is not blank. -/
def trimmed (s : String) : String :=
  String.ofList (trim s.toList)

/-- The string from its first character on that is not blank. -/
def trimmedStart (s : String) : String :=
  String.ofList (trimStart s.toList)

/-- A string is blank if every character of it is. -/
def isBlankString (s : String) : Bool :=
  isBlankText s.toList

@[simp] theorem toList_trimmed (s : String) : (trimmed s).toList = trim s.toList := by
  simp [trimmed]

@[simp] theorem toList_trimmedStart (s : String) :
    (trimmedStart s).toList = trimStart s.toList := by
  simp [trimmedStart]

end Launcher.Text
