import Launcher.Proofs.Arith.Spelling
import Launcher.Proofs.Decimal.Literals
import Launcher.Proofs.Text.Pieces

namespace Launcher.Arith

/-!
# Texts without tokens

A text is cut into tokens from its beginning. That fails at a character which no expression has, or
at a run of digits and points which is no numeral, such as `1..2`. Both can be said of the text
itself, without the cutting: which characters it has, and which maximal runs stand in it.

* `IsNumeral` — the runs of digits and points that are read as numbers: with one point at most, and
  a digit. `isSome_readUnsigned?_iff` says so.
* `IsAllowed` — the characters of expressions; `looksLikeExpression_iff` says which texts look like
  one.
* `isAllowed_of_tokenizeFrom` — a text that has tokens consists of those characters.
* `IsRunAt` — a run stands in a text and goes on to neither side.
* `Misspelling`, `tokenizeFrom_misspelling` — a text that has none holds a run that is no numeral,
  or another character.

The induction is on what is left of the text. What has been cut off is carried along, and that it
does not end within a run (`Parted`): else the run that is read next would not be maximal.
-/

/-! ### Numerals -/

/-- Digits with at most one point among them, and at least one digit. -/
def IsNumeral (run : List Char) : Prop :=
  run.any Text.isDigit = true ∧ run.count '.' ≤ 1

/-- A run of digits and points begins with digits, up to its end or to a point. -/
theorem exists_leading_digits {run : List Char} (hrun : ∀ c ∈ run, isNumeric c = true) :
    ∃ ds, (∀ c ∈ ds, Text.isDigit c = true) ∧ (run = ds ∨ ∃ rest, run = ds ++ '.' :: rest) := by
  refine ⟨run.takeWhile Text.isDigit, fun c hc => List.mem_takeWhile_imp hc, ?_⟩
  have hsplit := List.takeWhile_append_dropWhile (p := Text.isDigit) (l := run)
  rcases hrest : run.dropWhile Text.isDigit with _ | ⟨c, rest⟩
  · rw [hrest, List.append_nil] at hsplit
    exact .inl hsplit.symm
  · have hnumeric : isNumeric c = true := hrun c (hsplit ▸ hrest ▸ by simp)
    have hdigit : Text.isDigit c = false := by
      simpa [hrest] using List.head?_dropWhile_not Text.isDigit run
    obtain rfl : c = '.' := by simpa [isNumeric, hdigit] using hnumeric
    exact .inr ⟨rest, by rw [← hrest, hsplit]⟩

section Digits

variable {ds : List Char} (h : ∀ c ∈ ds, Text.isDigit c = true)
include h

/-- Of digits, one is there if there are any. -/
theorem any_isDigit_iff : ds.any Text.isDigit = true ↔ ds ≠ [] := by
  cases ds with
  | nil => simp
  | cons c ds => simp [h c List.mem_cons_self]

theorem count_point : ds.count '.' = 0 :=
  List.count_eq_zero.mpr fun hpoint => Decimal.ne_point_of_isDigit (h _ hpoint) rfl

end Digits

/-- **A run of digits and points is read as a number** exactly if it is a numeral. -/
theorem isSome_readUnsigned?_iff {run : List Char} (hrun : ∀ c ∈ run, isNumeric c = true)
    (negative : Bool) : (Decimal.readUnsigned? negative run).isSome = true ↔ IsNumeral run := by
  have hpoint (rest : List Char) : Decimal.EndsNumber ('.' :: rest) := by
    rintro c ⟨⟩
    decide
  unfold IsNumeral
  obtain ⟨ds, hds, rfl | ⟨rest, rfl⟩⟩ := exists_leading_digits hrun
  · have hspan := Decimal.spanDigits_append hds Decimal.endsNumber_nil
    rw [List.append_nil] at hspan
    simp [Decimal.readUnsigned?, hspan, any_isDigit_iff hds, count_point hds]
  · have hspan := Decimal.spanDigits_append hds (hpoint rest)
    have hrest : ∀ c ∈ rest, isNumeric c = true := fun c hc => hrun c (by simp [hc])
    obtain ⟨ds', hds', rfl | ⟨rest', rfl⟩⟩ := exists_leading_digits hrest
    · have hspan' := Decimal.spanDigits_append hds' Decimal.endsNumber_nil
      rw [List.append_nil] at hspan'
      have hdigit : Text.isDigit '.' = false := by decide
      simp [Decimal.readUnsigned?, hspan, hspan', any_isDigit_iff hds, any_isDigit_iff hds',
        count_point hds, count_point hds', hdigit, imp_iff_not_or]
    · -- Behind a second point nothing is read any more.
      have hspan' := Decimal.spanDigits_append hds' (hpoint rest')
      simp [Decimal.readUnsigned?, hspan, hspan', count_point hds, count_point hds']

/-! ### Characters -/

/-- The characters of which expressions consist. -/
def IsAllowed (c : Char) : Prop :=
  (isNumeric c || Text.isBlank c || (symbol? c).isSome) = true

/-- A text looks like an expression if its characters are those of expressions, and there is a digit
among them. -/
theorem looksLikeExpression_iff {s : List Char} :
    looksLikeExpression s = true ↔ (∀ c ∈ s, IsAllowed c) ∧ ∃ c ∈ s, Text.isDigit c = true := by
  have hblank {c : Char} (hc : Text.isBlank c = true) : IsAllowed c := by simp [IsAllowed, hc]
  obtain ⟨front, back, -, -, hs⟩ := Text.exists_eq_append_trim s
  have hmem {c : Char} (hc : c ∈ Text.trim s) : c ∈ s := by
    rw [hs]
    simp [hc]
  unfold looksLikeExpression
  dsimp only
  rw [Bool.and_eq_true, List.all_eq_true, List.any_eq_true]
  -- The blanks around the text are allowed, and they are no digits.
  refine and_congr ⟨fun h c hc => ?_, fun h c hc => h c (hmem hc)⟩
    ⟨fun ⟨c, hc, hdigit⟩ => ⟨c, hmem hc, hdigit⟩, fun ⟨c, hc, hdigit⟩ => ?_⟩
  · exact (Text.isBlank_or_mem_trim hc).elim hblank (h c)
  · refine ⟨c, (Text.isBlank_or_mem_trim hc).resolve_left ?_, hdigit⟩
    simp [Text.isBlank_of_isDigit hdigit]

/-- A text that has tokens consists of the characters of expressions. -/
theorem isAllowed_of_tokenizeFrom {offset : Nat} {s : List Char} {tokens : List Placed}
    (h : tokenizeFrom offset s = .ok tokens) : ∀ c ∈ s, IsAllowed c := by
  fun_induction tokenizeFrom offset s generalizing tokens with
  | case1 => simp
  | case2 offset c s hblank ih =>
    refine List.forall_mem_cons.mpr ⟨?_, ih h⟩
    simp [IsAllowed, hblank]
  | case3 => cases h
  | case4 offset c s _ hnumeric run value hvalue =>
    rename_i ih
    obtain ⟨tail, htail, -⟩ := tokenize_bind h
    have hnumber (d : Char) (hd : isNumeric d = true) : IsAllowed d := by simp [IsAllowed, hd]
    refine List.forall_mem_cons.mpr ⟨hnumber c hnumeric, ?_⟩
    rw [← List.takeWhile_append_dropWhile (p := isNumeric) (l := s)]
    exact List.forall_mem_append.mpr ⟨fun d hd => hnumber d (List.mem_takeWhile_imp hd), ih htail⟩
  | case5 => cases h
  | case6 offset c s _ _ token htoken ih =>
    obtain ⟨tail, htail, -⟩ := tokenize_bind h
    refine List.forall_mem_cons.mpr ⟨?_, ih htail⟩
    simp [IsAllowed, htoken]

/-! ### Misspellings -/

/-- A run of digits and points stands in a text, and goes on to neither side. -/
structure IsRunAt (s : List Char) (offset : Nat) (run : List Char) : Prop where
  numeric : ∀ c ∈ run, isNumeric c = true
  stands : ∃ front back, s = front ++ (run ++ back) ∧ front.length = offset ∧
    (∀ c ∈ front.getLast?, isNumeric c = false) ∧ ∀ c ∈ back.head?, isNumeric c = false

/-- What is wrong with the characters of a text: a run of digits and points that is no numeral, or a
character that is none of those of expressions. -/
inductive Misspelling (s : List Char) : Fault → Prop
  | numeral {offset : Nat} {run : List Char} (hrun : IsRunAt s offset run) (h : ¬IsNumeral run) :
      Misspelling s (.malformed offset (.invalidNumber (String.ofList run)))
  | character {offset : Nat} {c : Char} (hc : c ∈ s) (h : ¬IsAllowed c) :
      Misspelling s (.malformed offset (.unexpectedCharacter c))

/-- No run goes on from the end of a text into what follows it. -/
def Parted (front s : List Char) : Prop :=
  ∀ c ∈ front.getLast?, isNumeric c = true → ∀ d ∈ s.head?, isNumeric d = false

/-- No run goes on over a character that is neither a digit nor a point. -/
theorem parted_append_singleton {front s : List Char} {c : Char} (h : isNumeric c = false) :
    Parted (front ++ [c]) s := by
  intro d hd hnumeric
  rw [List.getLast?_append, List.getLast?_singleton] at hd
  obtain rfl := Option.some.inj hd
  rw [h] at hnumeric
  exact nomatch hnumeric

/-- What follows a run is neither a digit nor a point. -/
theorem isNumeric_of_mem_head?_dropWhile {s : List Char} :
    ∀ c ∈ (s.dropWhile isNumeric).head?, isNumeric c = false := by
  intro c hc
  have hfirst := List.head?_dropWhile_not isNumeric s
  rw [Option.mem_def.mp hc] at hfirst
  simpa using hfirst

/-- A fault in the rest is the fault of the whole. -/
theorem tokenize_bind_error {answer : Except Fault (List Placed)} {p : Placed} {fault : Fault}
    (h : (do return p :: (← answer)) = Except.error fault) : answer = .error fault := by
  cases answer with
  | error fault' => exact h
  | ok tail => cases h

/-- **A text that has no tokens is misspelled** where the fault says. What has been cut off it so
far tells the offset of its rest. -/
theorem tokenizeFrom_misspelling (s front : List Char) {fault : Fault} (hparted : Parted front s)
    (h : tokenizeFrom front.length s = .error fault) : Misspelling (front ++ s) fault := by
  match s with
  | [] =>
    rw [tokenizeFrom] at h
    cases h
  | c :: s =>
    rw [tokenizeFrom] at h
    split at h
    next hblank =>
      have hc : isNumeric c = false :=
        Bool.eq_false_iff.mpr fun hc => by simp [isBlank_of_isNumeric hc] at hblank
      rw [List.append_cons]
      exact tokenizeFrom_misspelling s (front ++ [c]) (parted_append_singleton hc)
        (by simpa using h)
    next hblank =>
      split at h
      next hnumeric =>
        have hrun : ∀ d ∈ c :: s.takeWhile isNumeric, isNumeric d = true :=
          List.forall_mem_cons.mpr ⟨hnumeric, fun d hd => List.mem_takeWhile_imp hd⟩
        have hsplit : front ++ c :: s =
            front ++ (c :: s.takeWhile isNumeric ++ s.dropWhile isNumeric) := by
          rw [List.cons_append, List.takeWhile_append_dropWhile]
        dsimp only at h
        split at h
        next hnone =>
          cases h
          refine .numeral ⟨hrun, front, s.dropWhile isNumeric, hsplit, rfl, ?_,
            isNumeric_of_mem_head?_dropWhile⟩ ?_
          · -- The run begins here, as what was cut off does not end within one.
            intro d hd
            exact Bool.eq_false_iff.mpr fun hnum => by
              simpa [hnumeric] using hparted d hd hnum c rfl
          · rw [← isSome_readUnsigned?_iff hrun false, hnone]
            exact Bool.false_ne_true
        next value hvalue =>
          rw [hsplit, ← List.append_assoc]
          refine tokenizeFrom_misspelling (s.dropWhile isNumeric)
            (front ++ c :: s.takeWhile isNumeric) ?_ (by simpa using tokenize_bind_error h)
          exact fun _ _ _ => isNumeric_of_mem_head?_dropWhile
      next hnumeric =>
        split at h
        next hsymbol =>
          cases h
          refine .character (by simp) ?_
          simp [IsAllowed, hblank, hnumeric, hsymbol]
        next token htoken =>
          rw [List.append_cons]
          exact tokenizeFrom_misspelling s (front ++ [c])
            (parted_append_singleton (Bool.eq_false_iff.mpr hnumeric))
            (by simpa using tokenize_bind_error h)
termination_by s.length
decreasing_by
  · simp
  · exact Nat.lt_succ_of_le (List.dropWhile_sublist isNumeric).length_le
  · simp

end Launcher.Arith
