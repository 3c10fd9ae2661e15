import Launcher.Text.Blank
import Launcher.Text.Lowercase

namespace Launcher

/-!
# Matching a query against a text

* `fold` — a text without regard to case, character by character.
* `Match` — a score and the offsets of the matched characters.
* `matchText?` — equality, a contiguous part or a subsequence, in this order of preference.
* `bestMatch?` — the best match of a title and of further keys.
-/

/-- A text without regard to case, one character for each. -/
def fold (s : List Char) : List Char :=
  s.map Text.foldChar

/-- A score between zero and one, and the offsets of the matched characters in increasing order. -/
structure Match where
  score : Float
  offsets : List Nat
deriving Repr

namespace Match

/-- The score of a text that the query is. -/
def exactScore : Float := 1.0

/-- The score of a text of which the query is a contiguous part. -/
def partScore : Float := 0.8

/-- What the score of a text of which the query is only a subsequence stays below. -/
def subsequenceCeiling : Float := 0.6

/-- The offset of the first occurrence of a contiguous part. -/
def findPart? (needle : List Char) : List Char → Option Nat
  | [] => if needle.isEmpty then some 0 else none
  | c :: hay =>
    if needle.isPrefixOf (c :: hay) then some 0 else (findPart? needle hay).map (· + 1)

/-- The offsets, from `start` on, of the first characters that spell a text in order. -/
def positions? (start : Nat) : (needle hay : List Char) → Option (List Nat)
  | [], _ => some []
  | _ :: _, [] => none
  | c :: needle, d :: hay =>
    if c = d then (positions? (start + 1) needle hay).map (start :: ·)
    else positions? (start + 1) (c :: needle) hay

/-- The number of characters from the first offset to the last. -/
def span (offsets : List Nat) : Nat :=
  offsets.getLastD 0 - offsets.headD 0 + 1

/-- The score of a subsequence: the ceiling, times its length, divided by its span. -/
def subsequenceScore (length span : Nat) : Float :=
  subsequenceCeiling * length.toFloat / span.toFloat

/-- Matches one folded text against another. -/
def ofFolded? (needle hay : List Char) : Option Match :=
  if needle.isEmpty || hay.isEmpty || hay.length < needle.length then none
  else if needle = hay then some ⟨exactScore, List.range hay.length⟩
  else
    match findPart? needle hay with
    | some start => some ⟨partScore, List.range' start needle.length⟩
    | none => (positions? 0 needle hay).map fun offsets =>
      ⟨subsequenceScore needle.length (span offsets), offsets⟩

end Match

/-- Matches a trimmed query against a text without regard to case. -/
def matchText? (query text : String) : Option Match :=
  Match.ofFolded? (fold (Text.trim query.toList)) (fold text.toList)

/-- The larger of two scores. -/
def largerScore (x y : Float) : Float :=
  if x < y then y else x

/-- The highest score that a query has among some keys. -/
def bestKeyScore? (query : String) (keys : List String) : Option Float :=
  (keys.filterMap (matchText? query)).foldl
    (fun best found => some (match best with
      | some score => largerScore score found.score
      | none => found.score)) none

/-- The best match of a title and of further keys. What is highlighted is always matched in the
title. -/
def bestMatch? (query title : String) (keys : List String) : Option Match :=
  match matchText? query title, bestKeyScore? query keys with
  | some found, some score => some (if found.score < score then { found with score } else found)
  | some found, none => some found
  | none, some score => some ⟨score, []⟩
  | none, none => none

end Launcher
