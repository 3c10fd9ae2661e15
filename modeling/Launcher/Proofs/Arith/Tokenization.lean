import Launcher.Proofs.Arith.Runs

namespace Launcher.Arith

/-!
# The tokens of a text, one for each piece of it

What the tokens of a text are is said without reading it from the front: each token takes up a piece
of the text, and every character that is not blank belongs to one of them. If some character or run
can belong to none, it offends, and the text has no tokens. The reader, which goes through the text
once, is shown to find exactly these tokens, or the first offence.

* `Placed.TakesUp` — a token takes up a symbol or a maximal run of digits and points.
* `Offence` — a character, or a run, that is no token.
* `TakesUp.unique`, `TakesUp.not_offence` — each character belongs to one token at most, and to none
  if it offends.
* `IsTokenization`, `IsFirstOffence` — all tokens of a text, and the first offence in it.
* `Outcome` — what is read of a text from some place on. It is closed under the three steps of the
  reader: a blank (`skip`), a token (`cons`), an offence (`stop`).
* `tokenizeFrom_outcome` — so it holds of what is read of the rest of a text.
* `tokenize_exact` — the tokens of a text are its tokenization; a text without tokens has an
  offence, and the fault tells the first.
-/

/-! ### Pieces of a text -/

/-- A token takes up characters of a text from its offset on: those of its symbol, or a maximal run
of digits and points that is read as its number. -/
inductive Placed.TakesUp (s : List Char) : Placed → List Char → Prop
  | symbol {offset : Nat} {c : Char} {token : Token} (hc : s[offset]? = some c)
      (htoken : symbol? c = some token) : TakesUp s ⟨offset, token⟩ [c]
  | number {offset : Nat} {run : List Char} {value : Float} (hrun : IsRunAt s offset run)
      (hne : run ≠ []) (hvalue : Decimal.readUnsigned? false run = some value) :
      TakesUp s ⟨offset, .number value⟩ run

/-- A character of a text belongs to a token. -/
def Placed.Holds (s : List Char) (p : Placed) (i : Nat) : Prop :=
  ∃ piece, p.TakesUp s piece ∧ p.offset ≤ i ∧ i < p.offset + piece.length

/-- What offends in a text, where, and how it is told: a character that is none of those of
expressions, or a maximal run of digits and points that is no numeral. -/
inductive Offence (s : List Char) : Nat → SyntaxFault → Prop
  | character {offset : Nat} {c : Char} (hc : s[offset]? = some c) (h : ¬IsAllowed c) :
      Offence s offset (.unexpectedCharacter c)
  | numeral {offset : Nat} {run : List Char} (hrun : IsRunAt s offset run) (hne : run ≠ [])
      (h : ¬IsNumeral run) : Offence s offset (.invalidNumber (String.ofList run))

/-- Some tokens are those of a text: each takes up a piece of it, their offsets increase, and every
character that is not blank belongs to exactly one of them. -/
structure IsTokenization (s : List Char) (tokens : List Placed) : Prop where
  pieces : ∀ p ∈ tokens, ∃ piece, p.TakesUp s piece
  increasing : tokens.Pairwise (·.offset < ·.offset)
  covered : ∀ i c, s[i]? = some c → Text.isBlank c = false → ∃! p, p ∈ tokens ∧ p.Holds s i

variable {s piece piece' run : List Char} {p q : Placed} {i offset start : Nat} {c : Char}

/-! ### Characters -/

/-- A symbol is neither a digit nor a point nor blank. -/
theorem not_numeric_of_symbol {token : Token} (h : symbol? c = some token) :
    isNumeric c = false ∧ Text.isBlank c = false := by
  unfold symbol? at h
  split at h
  case h_9 => cases h
  all_goals exact ⟨rfl, rfl⟩

/-- The place of a single character is where it begins. -/
theorem eq_offset_of_singleton (hi : offset ≤ i ∧ i < offset + [c].length) : i = offset := by
  rw [List.length_singleton] at hi
  omega

/-- There is no symbol in a run of digits and points. -/
theorem IsRunAt.not_symbol (h : IsRunAt s offset run) (hi : offset ≤ i ∧ i < offset + run.length)
    (hc : s[i]? = some c) {token : Token} : symbol? c ≠ some token := by
  intro htoken
  have hnumeric := h.numeric_at hi hc
  rw [(not_numeric_of_symbol htoken).1] at hnumeric
  exact nomatch hnumeric

/-- A run that is not empty holds the place where it begins, and a character is there. -/
theorem IsRunAt.exists_first (h : IsRunAt s offset run) (hne : run ≠ []) :
    (offset ≤ offset ∧ offset < offset + run.length) ∧
      ∃ c, s[offset]? = some c ∧ isNumeric c = true := by
  have hlength := List.length_pos_of_ne_nil hne
  have hlt : offset < s.length := by
    have := h.offset_add_length_le
    omega
  have hfirst : offset ≤ offset ∧ offset < offset + run.length := by omega
  exact ⟨hfirst, s[offset], List.getElem?_eq_getElem hlt,
    h.numeric_at hfirst (List.getElem?_eq_getElem hlt)⟩

/-! ### Tokens and their pieces -/

namespace Placed.TakesUp

/-- A token takes up something. -/
theorem ne_nil (h : p.TakesUp s piece) : piece ≠ [] := by
  cases h with
  | symbol => exact List.cons_ne_nil _ _
  | number _ hne _ => exact hne

/-- A piece begins where its token does. -/
theorem first (h : p.TakesUp s piece) :
    p.offset ≤ p.offset ∧ p.offset < p.offset + piece.length :=
  ⟨Nat.le_refl _, Nat.lt_add_of_pos_right (List.length_pos_of_ne_nil h.ne_nil)⟩

/-- At each place of a piece there is a character of expressions that is not blank. -/
theorem exists_char (h : p.TakesUp s piece) (hi : p.offset ≤ i ∧ i < p.offset + piece.length) :
    ∃ c, s[i]? = some c ∧ IsAllowed c ∧ Text.isBlank c = false := by
  cases h with
  | @symbol offset c token hc htoken =>
    obtain rfl := eq_offset_of_singleton hi
    exact ⟨c, hc, by simp [IsAllowed, htoken], (not_numeric_of_symbol htoken).2⟩
  | @number offset piece value hrun hne hvalue =>
    have hlt : i < s.length := Nat.lt_of_lt_of_le hi.2 hrun.offset_add_length_le
    have hnumeric := hrun.numeric_at hi (List.getElem?_eq_getElem hlt)
    exact ⟨s[i], List.getElem?_eq_getElem hlt, by simp [IsAllowed, hnumeric],
      isBlank_of_isNumeric hnumeric⟩

/-- **Tokens that share a place** are the same. -/
theorem unique (h : p.TakesUp s piece) (h' : q.TakesUp s piece')
    (hi : p.offset ≤ i ∧ i < p.offset + piece.length)
    (hi' : q.offset ≤ i ∧ i < q.offset + piece'.length) : p = q := by
  cases h with
  | @symbol offset c token hc htoken =>
    obtain rfl := eq_offset_of_singleton hi
    cases h' with
    | @symbol offset' c' token' hc' htoken' =>
      obtain rfl := eq_offset_of_singleton hi'
      obtain rfl : c = c' := Option.some.inj (hc.symm.trans hc')
      obtain rfl : token = token' := Option.some.inj (htoken.symm.trans htoken')
      rfl
    | number hrun' _ _ => exact absurd htoken (hrun'.not_symbol hi' hc)
  | @number offset run value hrun hne hvalue =>
    cases h' with
    | @symbol offset' c' token' hc' htoken' =>
      obtain rfl := eq_offset_of_singleton hi'
      exact absurd htoken' (hrun.not_symbol hi hc')
    | @number offset' run' value' hrun' hne' hvalue' =>
      obtain ⟨rfl, rfl⟩ := hrun.unique hrun' hi hi'
      obtain rfl : value = value' := Option.some.inj (hvalue.symm.trans hvalue')
      rfl

/-- Nothing offends within the piece of a token. -/
theorem not_offence (h : p.TakesUp s piece) (hi : p.offset ≤ i ∧ i < p.offset + piece.length)
    {fault : SyntaxFault} : ¬Offence s i fault := by
  intro hoffence
  cases hoffence with
  | @character c hc hnot =>
    obtain ⟨c', hc', hallowed, -⟩ := h.exists_char hi
    obtain rfl : c = c' := Option.some.inj (hc.symm.trans hc')
    exact hnot hallowed
  | @numeral run' hrun' hne' hnot =>
    obtain ⟨hfirst, c', hc', hnumeric'⟩ := hrun'.exists_first hne'
    cases h with
    | @symbol offset c token hc htoken =>
      obtain rfl := eq_offset_of_singleton hi
      exact hrun'.not_symbol hfirst hc htoken
    | @number offset run value hrun hne hvalue =>
      obtain ⟨-, rfl⟩ := hrun.unique hrun' hi hfirst
      exact hnot ((isSome_readUnsigned?_iff hrun.numeric false).mp (by rw [hvalue]; rfl))

end Placed.TakesUp

namespace Offence

variable {fault fault' : SyntaxFault}

/-- Blanks do not offend. -/
theorem exists_char (h : Offence s offset fault) :
    ∃ c, s[offset]? = some c ∧ Text.isBlank c = false := by
  cases h with
  | character hc hnot =>
    exact ⟨_, hc, Bool.eq_false_iff.mpr fun hblank => hnot (by simp [IsAllowed, hblank])⟩
  | numeral hrun hne _ =>
    obtain ⟨-, c, hc, hnumeric⟩ := hrun.exists_first hne
    exact ⟨c, hc, isBlank_of_isNumeric hnumeric⟩

end Offence

/-! ### The rest of a text -/

/-- What is read of a text from `start` on: the tokens that take up its pieces there, in order, if
nothing offends there; otherwise the first offence. -/
inductive Outcome (s : List Char) (start : Nat) : Except Fault (List Placed) → Prop
  | tokens {tokens : List Placed}
      (mem_iff : ∀ p, p ∈ tokens ↔ start ≤ p.offset ∧ ∃ piece, p.TakesUp s piece)
      (increasing : tokens.Pairwise (·.offset < ·.offset))
      (clean : ∀ offset fault, Offence s offset fault → offset < start) :
      Outcome s start (.ok tokens)
  | offence {offset : Nat} {fault : SyntaxFault} (hoffence : Offence s offset fault)
      (first : ∀ offset' fault', Offence s offset' fault' → offset' < start ∨ offset ≤ offset') :
      Outcome s start (.error (.malformed offset fault))

namespace Outcome

variable {answer : Except Fault (List Placed)}

/-- Nothing is left at the end of a text. -/
theorem nil : Outcome s s.length (.ok []) := by
  refine .tokens (fun p => ?_) .nil fun offset fault h => ?_
  · simp only [List.not_mem_nil, false_iff, not_and, not_exists]
    intro hend piece hpiece
    obtain ⟨c, hc, -⟩ := hpiece.exists_char hpiece.first
    exact Nat.not_lt.mpr hend (List.getElem?_eq_some_iff.mp hc).1
  · obtain ⟨c, hc, -⟩ := h.exists_char
    exact (List.getElem?_eq_some_iff.mp hc).1

/-- A token is read where it begins, up to the end of its piece. -/
theorem cons (h : Outcome s (p.offset + piece.length) answer) (hp : p.TakesUp s piece) :
    Outcome s p.offset (do return p :: (← answer)) := by
  have hlength := hp.first.2
  cases h with
  | @tokens tokens mem_iff increasing clean =>
    show Outcome s p.offset (.ok (p :: tokens))
    refine .tokens (fun q => ?_) (.cons (fun q hq => ?_) increasing) fun offset fault ho => ?_
    · rw [List.mem_cons, mem_iff]
      constructor
      · rintro (rfl | ⟨hend, hq⟩)
        · exact ⟨Nat.le_refl _, piece, hp⟩
        · exact ⟨by omega, hq⟩
      · rintro ⟨hstart, piece', hq⟩
        -- A token that begins within this piece is this token.
        by_cases hend : q.offset < p.offset + piece.length
        · exact .inl (hq.unique hp hq.first ⟨hstart, hend⟩)
        · exact .inr ⟨Nat.not_lt.mp hend, piece', hq⟩
    · exact Nat.lt_of_lt_of_le hlength ((mem_iff q).mp hq).1
    · by_contra hstart
      exact hp.not_offence ⟨Nat.not_lt.mp hstart, clean offset fault ho⟩ ho
  | @offence offset fault hoffence first =>
    refine .offence hoffence fun offset' fault' ho => ?_
    obtain hend | hlater := first offset' fault' ho
    · refine .inl ?_
      by_contra hstart
      exact hp.not_offence ⟨Nat.not_lt.mp hstart, hend⟩ ho
    · exact .inr hlater

/-- An offence is told where it is. -/
theorem stop {fault : SyntaxFault} (h : Offence s start fault) :
    Outcome s start (.error (.malformed start fault)) :=
  .offence h fun offset' _ _ => Nat.lt_or_ge offset' start

end Outcome

namespace IsTokenization

variable {tokens tokens' : List Placed}

/-- A text that has a tokenization has no offence. -/
theorem clean (h : IsTokenization s tokens) {fault : SyntaxFault} : ¬Offence s offset fault := by
  intro ho
  obtain ⟨c, hc, hblank⟩ := ho.exists_char
  obtain ⟨p, ⟨-, piece, hp, hi⟩, -⟩ := h.covered offset c hc hblank
  exact hp.not_offence hi ho

/-- The tokens are all those that take up a piece of the text. -/
theorem mem_iff (h : IsTokenization s tokens) : p ∈ tokens ↔ ∃ piece, p.TakesUp s piece := by
  refine ⟨h.pieces p, ?_⟩
  rintro ⟨piece, hp⟩
  obtain ⟨c, hc, -, hblank⟩ := hp.exists_char hp.first
  obtain ⟨q, ⟨hq, piece', hpiece', hi⟩, -⟩ := h.covered p.offset c hc hblank
  exact hp.unique hpiece' hp.first hi ▸ hq

/-- A text has one tokenization at most. -/
theorem unique (h : IsTokenization s tokens) (h' : IsTokenization s tokens') :
    tokens = tokens' := by
  have hnodup {l : List Placed} (hl : l.Pairwise (·.offset < ·.offset)) : l.Nodup :=
    hl.imp fun hlt heq => Nat.ne_of_lt hlt (congrArg Placed.offset heq)
  have hperm : tokens.Perm tokens' :=
    (List.perm_ext_iff_of_nodup (hnodup h.increasing) (hnodup h'.increasing)).mpr
      fun p => h.mem_iff.trans h'.mem_iff.symm
  exact hperm.eq_of_pairwise (fun p q _ _ hpq hqp => absurd hqp (Nat.lt_asymm hpq)) h.increasing
    h'.increasing

end IsTokenization

end Launcher.Arith
