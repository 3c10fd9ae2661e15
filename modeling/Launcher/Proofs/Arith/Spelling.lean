import Launcher.Arith.Token
import Launcher.Proofs.Text.Letters

namespace Launcher.Arith

/-!
# Where the tokens of a text stand

Each token carries the offset at which it was read. These offsets are what errors report, so they
should be right: a token is spelled in the text at its offset, and no two tokens share one.

* `Placed.StandsIn` — a token is spelled in a text at its offset: by its symbol, or by a run of
  digits and points that is read as its number.
* `Spelled` — so is each of some tokens, one after the other.
* `tokenizeFrom_spelled` — the induction on what is left of the text. What has been cut off is
  carried along, as its length is the offset of the rest.
* `tokenize_spelled` — the tokens of a text are spelled in it, in order.
-/

/-- Neither digits nor points are blank. -/
theorem isBlank_of_isNumeric {c : Char} (h : isNumeric c = true) : Text.isBlank c = false := by
  rw [isNumeric, Bool.or_eq_true, beq_iff_eq] at h
  obtain hdigit | rfl := h
  · exact Text.isBlank_of_isDigit hdigit
  · decide

/-- A token stands in a text at its offset. -/
def Placed.StandsIn (p : Placed) (s : List Char) : Prop :=
  ∃ c back, s.drop p.offset = c :: back ∧ (symbol? c = some p.token ∨
    ∃ value, p.token = .number value ∧ isNumeric c = true ∧
      Decimal.readUnsigned? false (c :: back.takeWhile isNumeric) = some value)

/-- Tokens stand in a text one after the other, from an offset on. -/
structure Spelled (offset : Nat) (s : List Char) (tokens : List Placed) : Prop where
  stands : ∀ p ∈ tokens, p.StandsIn s
  ordered : tokens.Pairwise (·.offset < ·.offset)
  from_offset : ∀ p ∈ tokens, offset ≤ p.offset

theorem Spelled.nil {offset : Nat} {s : List Char} : Spelled offset s [] where
  stands := by simp
  ordered := .nil
  from_offset := by simp

/-- A token that stands before the others. -/
theorem Spelled.cons {offset : Nat} {s : List Char} {p : Placed} {tokens : List Placed}
    (h : Spelled offset s tokens) (hp : p.StandsIn s) (hoffset : p.offset < offset) :
    Spelled p.offset s (p :: tokens) where
  stands := List.forall_mem_cons.mpr ⟨hp, h.stands⟩
  ordered := .cons (fun q hq => Nat.lt_of_lt_of_le hoffset (h.from_offset q hq)) h.ordered
  from_offset := List.forall_mem_cons.mpr
    ⟨Nat.le_refl _, fun q hq => Nat.le_of_lt (Nat.lt_of_lt_of_le hoffset (h.from_offset q hq))⟩

/-- Tokens that stand from an offset on stand from an earlier one on. -/
theorem Spelled.mono {offset offset' : Nat} {s : List Char} {tokens : List Placed}
    (h : Spelled offset s tokens) (hoffset : offset' ≤ offset) : Spelled offset' s tokens :=
  ⟨h.stands, h.ordered, fun p hp => Nat.le_trans hoffset (h.from_offset p hp)⟩

/-- Behind the first token are those of the rest. -/
theorem tokenize_bind {answer : Except Fault (List Placed)} {p : Placed} {tokens : List Placed}
    (h : (do return p :: (← answer)) = Except.ok tokens) :
    ∃ tail, answer = .ok tail ∧ p :: tail = tokens := by
  cases answer with
  | error fault => cases h
  | ok tail => exact ⟨tail, rfl, Except.ok.inj h⟩

/-- What has been cut off a text so far tells the offset of its rest. -/
theorem tokenizeFrom_spelled (s front : List Char) {tokens : List Placed}
    (h : tokenizeFrom front.length s = .ok tokens) :
    Spelled front.length (front ++ s) tokens := by
  match s with
  | [] =>
    rw [tokenizeFrom] at h
    cases h
    exact .nil
  | c :: s =>
    rw [tokenizeFrom] at h
    split at h
    next =>
      have hs := tokenizeFrom_spelled s (front ++ [c]) (by simpa using h)
      rw [List.append_cons]
      exact hs.mono (by simp)
    next =>
      split at h
      next hnumeric =>
        dsimp only at h
        split at h
        next => cases h
        next value hvalue =>
          obtain ⟨tokens, htokens, rfl⟩ := tokenize_bind h
          have hs := tokenizeFrom_spelled (s.dropWhile isNumeric)
            (front ++ c :: s.takeWhile isNumeric) (by simpa using htokens)
          -- The digits that were cut off and the rest make the whole text again.
          rw [List.append_assoc, List.cons_append, List.takeWhile_append_dropWhile] at hs
          have hp : Placed.StandsIn ⟨front.length, .number value⟩ (front ++ c :: s) :=
            ⟨c, s, List.drop_left, .inr ⟨value, rfl, hnumeric, hvalue⟩⟩
          exact hs.cons hp (by simp)
      next hnumeric =>
        split at h
        next => cases h
        next token htoken =>
          obtain ⟨tokens, htokens, rfl⟩ := tokenize_bind h
          have hs := tokenizeFrom_spelled s (front ++ [c]) (by simpa using htokens)
          rw [← List.append_cons] at hs
          have hp : Placed.StandsIn ⟨front.length, token⟩ (front ++ c :: s) :=
            ⟨c, s, List.drop_left, .inl htoken⟩
          exact hs.cons hp (by simp)
termination_by s.length
decreasing_by
  · simp
  · exact Nat.lt_succ_of_le (List.dropWhile_sublist isNumeric).length_le
  · simp

/-- The tokens of a text are spelled in it. -/
theorem tokenize_spelled {s : List Char} {tokens : List Placed} (h : tokenize s = .ok tokens) :
    Spelled 0 s tokens :=
  tokenizeFrom_spelled s [] h

end Launcher.Arith
