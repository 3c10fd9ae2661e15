namespace Launcher.Text

/-!
# Cutting texts at a separator

* `stripStart?` — what follows a given beginning.
* `cutAt?`, `cutAtLast?` — what stands before and after the first, or the last, occurrence.
* `splitOn` — the pieces between the leftmost non-overlapping occurrences of a separator.
* `replaceAll` — those occurrences replaced.
* `joinWith` — pieces put together again.
-/

/-- What follows `start` in a text that begins with it. -/
def stripStart? : (start s : List Char) → Option (List Char)
  | [], s => some s
  | _ :: _, [] => none
  | c :: start, d :: s => if c = d then stripStart? start s else none

theorem stripStart?_eq_some_iff {start s rest : List Char} :
    stripStart? start s = some rest ↔ s = start ++ rest := by
  induction start generalizing s with
  | nil => simp [stripStart?, eq_comm]
  | cons c start ih =>
    cases s with
    | nil => simp [stripStart?]
    | cons d s =>
      by_cases h : c = d
      · simp [stripStart?, h, ih]
      · simp [stripStart?, h, Ne.symm h]

/-- What stands before and after the first occurrence of `mark`. -/
def cutAt? (mark : List Char) : List Char → Option (List Char × List Char)
  | [] => (stripStart? mark []).map fun rest => ([], rest)
  | c :: s =>
    match stripStart? mark (c :: s) with
    | some rest => some ([], rest)
    | none => (cutAt? mark s).map fun cut => (c :: cut.1, cut.2)

theorem eq_append_of_cutAt? {mark s before after : List Char}
    (h : cutAt? mark s = some (before, after)) : s = before ++ mark ++ after := by
  induction s generalizing before after with
  | nil =>
    simp only [cutAt?, Option.map_eq_some_iff, Prod.mk.injEq] at h
    obtain ⟨rest, hrest, rfl, rfl⟩ := h
    simpa using stripStart?_eq_some_iff.1 hrest
  | cons c s ih =>
    simp only [cutAt?] at h
    split at h
    next rest hrest =>
      simp only [Option.some.injEq, Prod.mk.injEq] at h
      obtain ⟨rfl, rfl⟩ := h
      simpa using stripStart?_eq_some_iff.1 hrest
    next =>
      simp only [Option.map_eq_some_iff, Prod.mk.injEq] at h
      obtain ⟨cut, hcut, rfl, rfl⟩ := h
      rw [ih hcut]
      simp

/-- What stands before and after the last occurrence of `mark`. -/
def cutAtLast? (mark : List Char) : List Char → Option (List Char × List Char)
  | [] => (stripStart? mark []).map fun rest => ([], rest)
  | c :: s =>
    match cutAtLast? mark s with
    | some cut => some (c :: cut.1, cut.2)
    | none => (stripStart? mark (c :: s)).map fun rest => ([], rest)

/-- A text holds `part` as a contiguous part. -/
def isInfix (part s : List Char) : Bool :=
  (cutAt? part s).isSome

/-! ### Pieces between separators -/

/-- The pieces of a text between the leftmost non-overlapping occurrences of `sep`; the text itself
if `sep` is empty. -/
def splitOn (sep s : List Char) : List (List Char) :=
  if _hsep : sep = [] then [s] else
    match _hcut : cutAt? sep s with
    | none => [s]
    | some (before, after) => before :: splitOn sep after
termination_by s.length
decreasing_by
  have hlen := congrArg List.length (eq_append_of_cutAt? _hcut)
  have hpos : 0 < sep.length := List.length_pos_iff.2 _hsep
  simp only [List.length_append] at hlen
  omega

/-- The pieces, with `sep` between each two of them. -/
def joinWith (sep : List Char) (pieces : List (List Char)) : List Char :=
  (pieces.intersperse sep).flatten

/-- The text with the leftmost non-overlapping occurrences of `mark` replaced by `value`. -/
def replaceAll (mark value s : List Char) : List Char :=
  joinWith value (splitOn mark s)

/-- The string with the leftmost non-overlapping occurrences of `mark` replaced by `value`. -/
def replaceAllIn (mark value s : String) : String :=
  String.ofList (replaceAll mark.toList value.toList s.toList)

/-- The strings between the occurrences of one character. -/
def splitAtEach (sep : Char) (s : String) : List String :=
  (splitOn [sep] s.toList).map String.ofList

/-- The strings with a separator between each two of them. -/
def joined (sep : String) (pieces : List String) : String :=
  String.ofList (joinWith sep.toList (pieces.map String.toList))

example : replaceAllIn "aa" "b" "aaaca" = "baca" := by cbv

end Launcher.Text
