import Launcher.Proofs.Text.Letters
import Launcher.Text.Split
import Mathlib.Data.List.DropRight

namespace Launcher.Text

/-!
# What trimming and cutting leave of a text

Trimming:
* `IsTrimOf`, `isTrimOf_trim` — what trimming should leave of a text, and that it does.
* `head?_trim`, `isBlank_of_mem_head?_trim` — a trimmed text begins where the blanks end.
* `isBlank_or_mem_trim`, `exists_eq_append_trim` — only blanks at the ends are lost.
* `trimEnd_append`, `trim_trim` — what is trimmed once stays as it is.
* `trim_append` — blanks inside a text stay.
* `lower_trim` — trimming and lower case can be taken in either order.

Cutting:
* `splitAtBlank?_append`, `isBlank_of_splitAtBlank?` — what stands before the first blank.
* `splitAtBlank?_trimEnd` — the first blank of a text without the blanks at its end.
* `eq_append_of_cutAtLast?`, `cutAtLast?_append` — what stands before and after the last occurrence.
* `isInfix_iff` — a text that can be cut at a part holds it.
* `mem_sep_or_splitOn` — only separators are lost between pieces.
* `splitOn_of_not_mem`, `splitOn_append` — the pieces of a text, from its beginning on.
* `splitOn_flatMap_append`, `splitOn_joinWith` — pieces that are each ended by the separator, or
  have it between them.

Replacing:
* `replaceAll_singleton` — one character is replaced wherever it stands.
* `eq_of_joinWith_eq` — what stands between pieces can be told from the whole.
* `replaceAll_ne` — a part is not replaced by nothing and by something with the same result.

Trimming is done at the beginning and then, on the text turned round, at the end. The two ends touch
only if there is nothing but blanks, so most lemmas have this as a case of its own.
-/

variable {c : Char} {s : List Char}

/-! ### Blanks at both ends -/

/-- A character that is no blank keeps what stands before the end. -/
theorem trimEnd_cons (hc : isBlank c = false) (s : List Char) :
    trimEnd (c :: s) = c :: trimEnd s := by
  unfold trimEnd
  rw [List.reverse_cons, List.dropWhile_append]
  split
  next hempty =>
    rw [List.isEmpty_iff.mp hempty]
    simp [hc]
  next => rw [List.reverse_append, List.reverse_singleton, List.singleton_append]

/-- What was trimmed at its beginning does not begin with a blank. -/
theorem isBlank_of_mem_head?_trimStart (h : c ∈ (trimStart s).head?) : isBlank c = false := by
  unfold trimStart at h
  have hfirst := List.head?_dropWhile_not isBlank s
  rw [Option.mem_def.mp h] at hfirst
  simpa using hfirst

/-- A trimmed text begins where the blanks at its beginning end. -/
theorem head?_trim (s : List Char) : (trim s).head? = (trimStart s).head? := by
  unfold trim
  cases hs : trimStart s with
  | nil => rfl
  | cons c rest =>
    have hc : isBlank c = false := isBlank_of_mem_head?_trimStart (s := s) (by rw [hs]; rfl)
    rw [trimEnd_cons hc]
    rfl

/-- What was trimmed does not begin with a blank. -/
theorem isBlank_of_mem_head?_trim (h : c ∈ (trim s).head?) : isBlank c = false := by
  rw [head?_trim] at h
  exact isBlank_of_mem_head?_trimStart h

/-- A text that begins with no blank keeps its beginning. -/
theorem head?_trim_of_head? (h : ∀ c ∈ s.head?, isBlank c = false) : (trim s).head? = s.head? := by
  rw [head?_trim]
  unfold trimStart
  cases s with
  | nil => rfl
  | cons c rest => rw [List.dropWhile_cons_of_neg (by simp [h c rfl])]

/-- Only blanks are dropped from the beginning. -/
theorem isBlank_or_mem_dropWhile (h : c ∈ s) : isBlank c = true ∨ c ∈ s.dropWhile isBlank := by
  rw [← List.takeWhile_append_dropWhile (p := isBlank) (l := s)] at h
  exact (List.mem_append.mp h).imp_left fun htaken =>
    List.all_eq_true.mp List.all_takeWhile c htaken

/-- Trimming drops blanks only. -/
theorem isBlank_or_mem_trim (h : c ∈ s) : isBlank c = true ∨ c ∈ trim s := by
  obtain hblank | hstart := isBlank_or_mem_dropWhile h
  · exact .inl hblank
  · unfold trim trimEnd trimStart
    rw [List.mem_reverse]
    exact isBlank_or_mem_dropWhile (List.mem_reverse.mpr hstart)

/-- A text is blank if all its characters are. -/
theorem isBlankText_iff : isBlankText s = true ↔ ∀ c ∈ s, isBlank c = true :=
  List.all_eq_true

/-- It is not if one of them is none. -/
theorem isBlankText_eq_false_iff : isBlankText s = false ↔ ∃ c ∈ s, isBlank c = false := by
  rw [isBlankText, List.all_eq_false]
  simp only [Bool.not_eq_true]

/-- Trimming cuts blanks off both ends. -/
theorem exists_eq_append_trim (s : List Char) :
    ∃ front back, isBlankText front = true ∧ isBlankText back = true ∧
      s = front ++ (trim s ++ back) := by
  have hstart : s.takeWhile isBlank ++ trimStart s = s := List.takeWhile_append_dropWhile
  have hend : trim s ++ ((trimStart s).reverse.takeWhile isBlank).reverse = trimStart s := by
    rw [trim, trimEnd, ← List.reverse_append, List.takeWhile_append_dropWhile, List.reverse_reverse]
  refine ⟨_, _, ?_, ?_, (hend.symm ▸ hstart).symm⟩
  · exact isBlankText_iff.mpr fun c hc => List.mem_takeWhile_imp hc
  · exact isBlankText_iff.mpr fun c hc => List.mem_takeWhile_imp (List.mem_reverse.mp hc)

/-- Nothing is left exactly of a blank text. -/
theorem trimStart_eq_nil_iff : trimStart s = [] ↔ isBlankText s = true :=
  List.dropWhile_eq_nil_iff.trans isBlankText_iff.symm

theorem trimEnd_eq_nil_iff : trimEnd s = [] ↔ isBlankText s = true :=
  List.rdropWhile_eq_nil_iff.trans isBlankText_iff.symm

/-- Nothing is lost before a text that is not blank. -/
theorem trimEnd_append {t : List Char} (h : isBlankText t = false) (s : List Char) :
    trimEnd (s ++ t) = s ++ trimEnd t := by
  unfold trimEnd
  rw [List.reverse_append, List.dropWhile_append]
  split
  next hempty =>
    obtain ⟨c, hc, hblank⟩ := isBlankText_eq_false_iff.mp h
    rw [List.isEmpty_iff, List.dropWhile_eq_nil_iff] at hempty
    rw [hempty c (List.mem_reverse.mpr hc)] at hblank
    exact nomatch hblank
  next => rw [List.reverse_append, List.reverse_reverse]

/-- The two ends can be trimmed in either order. -/
theorem trimStart_trimEnd (s : List Char) : trimStart (trimEnd s) = trimEnd (trimStart s) := by
  cases hs : trimStart s with
  | nil =>
    rw [trimEnd_eq_nil_iff.mpr (trimStart_eq_nil_iff.mp hs)]
    rfl
  | cons c rest =>
    have hc : isBlank c = false := isBlank_of_mem_head?_trimStart (s := s) (by rw [hs]; rfl)
    have hrest : isBlankText (c :: rest) = false :=
      isBlankText_eq_false_iff.mpr ⟨c, List.mem_cons_self, hc⟩
    have hsplit : s = s.takeWhile isBlank ++ c :: rest := by
      rw [← hs]
      exact List.takeWhile_append_dropWhile.symm
    rw [hsplit, trimEnd_append hrest, trimEnd_cons hc, trimStart,
      List.dropWhile_append_of_pos (fun _ hmem => List.mem_takeWhile_imp hmem),
      List.dropWhile_cons_of_neg (by simp [hc])]

/-- To trim one end first makes no difference. -/
theorem trim_trimEnd (s : List Char) : trim (trimEnd s) = trim s := by
  unfold trim
  rw [trimStart_trimEnd]
  exact List.rdropWhile_idempotent isBlank _

/-- What is trimmed once stays as it is. -/
theorem trim_trim (s : List Char) : trim (trim s) = trim s := by
  have hstart : trimStart (trimStart s) = trimStart s := List.dropWhile_idempotent isBlank s
  show trim (trimEnd (trimStart s)) = trimEnd (trimStart s)
  rw [trim_trimEnd, trim, hstart]

/-- So does a string. -/
theorem trimmed_trimmed (s : String) : trimmed (trimmed s) = trimmed s := by
  unfold trimmed
  rw [String.toList_ofList, trim_trim]

/-- Nothing is left exactly of a blank text. -/
theorem trim_eq_nil_iff : trim s = [] ↔ isBlankText s = true := by
  rw [trim, ← trimStart_trimEnd, trimStart_eq_nil_iff, ← trimEnd_eq_nil_iff, ← trimEnd_eq_nil_iff]
  exact ⟨fun h => (List.rdropWhile_idempotent isBlank s).symm.trans h, fun h => by rw [h]; rfl⟩

/-- A text is trimmed at its beginning if it begins with no blank. -/
theorem trimStart_eq_self_iff : trimStart s = s ↔ ∀ c ∈ s.head?, isBlank c = false := by
  constructor
  · intro h c hc
    rw [← h] at hc
    exact isBlank_of_mem_head?_trimStart hc
  · intro h
    cases s with
    | nil => rfl
    | cons c s => exact List.dropWhile_cons_of_neg (by simp [h c rfl])

/-- A text is trimmed if it is at both ends. -/
theorem trim_eq_self_iff : trim s = s ↔ trimStart s = s ∧ trimEnd s = s := by
  constructor
  · intro h
    constructor
    · rw [← h, trim, ← trimStart_trimEnd]
      exact List.dropWhile_idempotent isBlank _
    · rw [← h, trim]
      exact List.rdropWhile_idempotent isBlank _
  · rintro ⟨hstart, hend⟩
    rw [trim, hstart, hend]

/-- What was trimmed does not end with a blank. -/
theorem isBlank_of_mem_getLast?_trim (h : c ∈ (trim s).getLast?) : isBlank c = false := by
  obtain ⟨hne, rfl⟩ := List.mem_getLast?_eq_getLast h
  exact Bool.eq_false_iff.mpr (List.rdropWhile_last_not isBlank (trimStart s) hne)

/-- What trimming should leave of a text: only blanks around it are missing, and it neither begins
nor ends with one. -/
structure IsTrimOf (t s : List Char) : Prop where
  around : ∃ front back, isBlankText front = true ∧ isBlankText back = true ∧
    s = front ++ (t ++ back)
  head : ∀ c ∈ t.head?, isBlank c = false
  last : ∀ c ∈ t.getLast?, isBlank c = false

/-- Trimming leaves what it should. -/
theorem isTrimOf_trim (s : List Char) : IsTrimOf (trim s) s where
  around := exists_eq_append_trim s
  head _ hc := isBlank_of_mem_head?_trim hc
  last _ hc := isBlank_of_mem_getLast?_trim hc

/-- A text that ends with a trimmed one is trimmed at its end. -/
theorem trimEnd_append_self {t : List Char} (ht : t ≠ []) (hend : trimEnd t = t) (s : List Char) :
    trimEnd (s ++ t) = s ++ t := by
  have hblank : isBlankText t = false := by
    rw [← Bool.not_eq_true, ← trimEnd_eq_nil_iff, hend]
    exact ht
  rw [trimEnd_append hblank, hend]

/-- Blanks inside a text stay. -/
theorem trim_append {t : List Char} (hs : s ≠ []) (hstart : trimStart s = s) (ht : t ≠ [])
    (hend : trimEnd t = t) : trim (s ++ t) = s ++ t := by
  have hhead : (s ++ t).head? = s.head? := List.head?_append_of_ne_nil s hs
  have htrim : trimStart (s ++ t) = s ++ t := by
    rw [trimStart_eq_self_iff, hhead]
    exact trimStart_eq_self_iff.mp hstart
  rw [trim, htrim, trimEnd_append_self ht hend]

/-- Blanks before a text are trimmed off. -/
theorem trim_append_of_blank {t : List Char} (h : isBlankText t = true) (s : List Char) :
    trim (t ++ s) = trim s := by
  unfold trim trimStart
  rw [List.dropWhile_append_of_pos (isBlankText_iff.mp h)]

/-- Blanks behind it are. -/
theorem trimEnd_append_of_blank {t : List Char} (h : isBlankText t = true) (s : List Char) :
    trimEnd (s ++ t) = trimEnd s := by
  unfold trimEnd
  rw [List.reverse_append, List.dropWhile_append_of_pos]
  intro c hc
  exact isBlankText_iff.mp h c (List.mem_reverse.mp hc)

/-- Trimming and lower case can be taken in either order. -/
theorem lower_trim (s : List Char) : lower (trim s) = trim (lower s) := by
  have hdrop (s : List Char) : (s.map lowerChar).dropWhile isBlank =
      (s.dropWhile isBlank).map lowerChar := by
    rw [List.dropWhile_map, show isBlank ∘ lowerChar = isBlank from funext isBlank_lowerChar]
  simp only [trim, trimEnd, trimStart, lower, hdrop, ← List.map_reverse]

/-- Without blanks nothing is trimmed at the end. -/
theorem trimEnd_of_not_blank (h : ∀ c ∈ s, isBlank c = false) : trimEnd s = s := by
  refine List.rdropWhile_eq_self_iff.mpr fun hs => ?_
  rw [h _ (List.getLast_mem hs)]
  exact Bool.false_ne_true

/-- Nor anywhere else. -/
theorem trim_of_not_blank (h : ∀ c ∈ s, isBlank c = false) : trim s = s :=
  trim_eq_self_iff.mpr ⟨trimStart_eq_self_iff.mpr fun c hc => h c (List.mem_of_mem_head? hc),
    trimEnd_of_not_blank h⟩

/-! ### The first blank -/

/-- What stands before the first blank, and what stands behind it. -/
theorem splitAtBlank?_append (hs : ∀ c ∈ s, isBlank c = false) (hc : isBlank c = true)
    (rest : List Char) : splitAtBlank? (s ++ c :: rest) = some (s, rest) := by
  have hkeep : ∀ d ∈ s, (!isBlank d) = true := by simpa using hs
  have hdrop : (c :: rest).dropWhile (!isBlank ·) = c :: rest :=
    List.dropWhile_cons_of_neg (by simp [hc])
  have htake : (c :: rest).takeWhile (!isBlank ·) = [] := List.takeWhile_cons_of_neg (by simp [hc])
  rw [splitAtBlank?, List.dropWhile_append_of_pos hkeep, List.takeWhile_append_of_pos hkeep, hdrop,
    htake, List.append_nil]

/-- There is no blank before the first one. -/
theorem isBlank_of_splitAtBlank? {head tail : List Char} (h : splitAtBlank? s = some (head, tail)) :
    ∀ c ∈ head, isBlank c = false := by
  unfold splitAtBlank? at h
  split at h
  next => cases h
  next =>
    obtain ⟨rfl, -⟩ := Prod.mk.inj (Option.some.inj h)
    intro c hc
    simpa using List.mem_takeWhile_imp hc

/-- Only the blank itself is lost between the two. -/
theorem eq_append_of_splitAtBlank? {head tail : List Char}
    (h : splitAtBlank? s = some (head, tail)) : ∃ c, isBlank c = true ∧ s = head ++ c :: tail := by
  unfold splitAtBlank? at h
  split at h
  next => cases h
  next c after hdrop =>
    obtain ⟨rfl, rfl⟩ := Prod.mk.inj (Option.some.inj h)
    have hc := List.head?_dropWhile_not (!isBlank ·) s
    rw [hdrop] at hc
    refine ⟨c, by simpa using hc, ?_⟩
    rw [← hdrop]
    exact List.takeWhile_append_dropWhile.symm

/-- A text is not split exactly if it has no blank. -/
theorem splitAtBlank?_eq_none_iff : splitAtBlank? s = none ↔ ∀ c ∈ s, isBlank c = false := by
  unfold splitAtBlank?
  split
  next hdrop => simpa using List.dropWhile_eq_nil_iff.mp hdrop
  next c after hdrop =>
    have hnil : s.dropWhile (!isBlank ·) ≠ [] := by simp [hdrop]
    rw [ne_eq, List.dropWhile_eq_nil_iff] at hnil
    simpa using hnil

/-- Without the blanks at the end, the first blank is the same unless it is one of them. -/
theorem splitAtBlank?_trimEnd (s : List Char) :
    splitAtBlank? (trimEnd s) = (splitAtBlank? s).bind fun cut =>
      if isBlankText cut.2 then none else some (cut.1, trimEnd cut.2) := by
  cases hs : splitAtBlank? s with
  | none =>
    have hnone := splitAtBlank?_eq_none_iff.mp hs
    rw [trimEnd_of_not_blank hnone, hs]
    rfl
  | some cut =>
    obtain ⟨head, tail⟩ := cut
    have hhead := isBlank_of_splitAtBlank? hs
    obtain ⟨c, hc, rfl⟩ := eq_append_of_splitAtBlank? hs
    rw [Option.bind_some]
    dsimp only
    -- Either the first blank belongs to the end that is trimmed away, or what follows it stays.
    split
    next htail =>
      have hblank : isBlankText (c :: tail) = true := by
        rw [isBlankText, List.all_cons, hc]
        exact htail
      rw [trimEnd_append_of_blank hblank, trimEnd_of_not_blank hhead]
      exact splitAtBlank?_eq_none_iff.mpr hhead
    next htail =>
      rw [Bool.not_eq_true] at htail
      have hsplit : head ++ c :: tail = (head ++ [c]) ++ tail := by simp
      rw [hsplit, trimEnd_append htail, List.append_assoc]
      exact splitAtBlank?_append hhead hc (trimEnd tail)

/-! ### Cuts -/

/-- The mark stands between the two parts. -/
theorem eq_append_of_cutAtLast? {mark before after : List Char}
    (h : cutAtLast? mark s = some (before, after)) : s = before ++ mark ++ after := by
  induction s generalizing before after with
  | nil =>
    simp only [cutAtLast?, Option.map_eq_some_iff, Prod.mk.injEq] at h
    obtain ⟨rest, hrest, rfl, rfl⟩ := h
    simpa using stripStart?_eq_some_iff.1 hrest
  | cons c s ih =>
    simp only [cutAtLast?] at h
    split at h
    -- There is an occurrence in the rest, and so the last one is there.
    next cut hcut =>
      simp only [Option.some.injEq, Prod.mk.injEq] at h
      obtain ⟨rfl, rfl⟩ := h
      rw [ih hcut]
      simp
    next =>
      simp only [Option.map_eq_some_iff, Prod.mk.injEq] at h
      obtain ⟨rest, hrest, rfl, rfl⟩ := h
      simpa using stripStart?_eq_some_iff.1 hrest

/-- A beginning can be taken off exactly if the text has it. -/
theorem isSome_stripStart? {start : List Char} : (stripStart? start s).isSome ↔ start <+: s := by
  rw [Option.isSome_iff_exists]
  exact exists_congr fun rest => stripStart?_eq_some_iff.trans eq_comm

/-- A text is not cut exactly if the mark does not occur. -/
theorem cutAtLast?_eq_none_iff {mark : List Char} : cutAtLast? mark s = none ↔ ¬mark <:+: s := by
  induction s with
  | nil =>
    rw [cutAtLast?, Option.map_eq_none_iff, List.infix_nil, ← List.prefix_nil, ← isSome_stripStart?,
      Option.not_isSome_iff_eq_none]
  | cons c s ih =>
    rw [cutAtLast?, List.infix_cons_iff, ← isSome_stripStart?]
    cases hlast : cutAtLast? mark s with
    | some cut =>
      -- A cut was found in the rest, so the mark occurs there.
      have hpart : mark <:+: s := Decidable.byContradiction fun h => by
        rw [ih.mpr h] at hlast
        exact nomatch hlast
      simp [hpart]
    | none => simp [ih.mp hlast]

/-- The last occurrence is the one that none begins behind. -/
theorem cutAtLast?_append {c : Char} {mark after : List Char} (h : ¬c :: mark <:+: mark ++ after)
    (before : List Char) :
    cutAtLast? (c :: mark) (before ++ c :: mark ++ after) = some (before, after) := by
  induction before with
  | nil =>
    rw [List.nil_append, List.cons_append, cutAtLast?, cutAtLast?_eq_none_iff.mpr h,
      stripStart?_eq_some_iff.mpr (List.cons_append ..).symm]
    rfl
  | cons b before ih => rw [List.cons_append, List.cons_append, cutAtLast?, ih]

/-- A text can be cut at a part exactly if it holds the part. -/
theorem isInfix_iff {part : List Char} : isInfix part s = true ↔ part <:+: s := by
  unfold isInfix
  induction s with
  | nil => rw [cutAt?, Option.isSome_map, isSome_stripStart?, List.prefix_nil, List.infix_nil]
  | cons c s ih =>
    rw [cutAt?, List.infix_cons_iff, ← isSome_stripStart?]
    cases hstart : stripStart? part (c :: s) with
    | some rest => simp
    | none => simpa using ih

/-- Every character of a text stands in a separator or in a piece. -/
theorem mem_sep_or_splitOn {sep : List Char} (h : c ∈ s) :
    c ∈ sep ∨ ∃ piece ∈ splitOn sep s, c ∈ piece := by
  fun_induction splitOn sep s with
  | case1 s hsep => exact .inr ⟨s, List.mem_singleton.mpr rfl, h⟩
  | case2 s hsep hcut => exact .inr ⟨s, List.mem_singleton.mpr rfl, h⟩
  | case3 s hsep before after hcut ih =>
    rw [eq_append_of_cutAt? hcut, List.mem_append, List.mem_append] at h
    obtain (hbefore | hmark) | hafter := h
    · exact .inr ⟨before, List.mem_cons_self, hbefore⟩
    · exact .inl hmark
    · refine (ih hafter).imp_right ?_
      rintro ⟨piece, hpiece, hc⟩
      exact ⟨piece, List.mem_cons_of_mem before hpiece, hc⟩

/-- A text without the separator is its only piece. -/
theorem splitOn_of_not_mem (h : c ∉ s) : splitOn [c] s = [s] := by
  rw [splitOn, dif_neg (List.cons_ne_nil c [])]
  split
  next => rfl
  next before after hcut =>
    rw [eq_append_of_cutAt? hcut] at h
    exact absurd (List.mem_append_left _ (List.mem_append_right _ List.mem_cons_self)) h

theorem splitOn_ne_nil (sep s : List Char) : splitOn sep s ≠ [] := by
  fun_induction splitOn sep s <;> exact List.cons_ne_nil _ _

/-- The first occurrence is the one before which there is none. -/
theorem cutAt?_append (h : c ∉ s) (rest : List Char) :
    cutAt? [c] (s ++ c :: rest) = some (s, rest) := by
  induction s with
  | nil => simp [cutAt?, stripStart?]
  | cons d s ih =>
    have hd : c ≠ d := fun heq => h (heq ▸ List.mem_cons_self)
    have hs : c ∉ s := fun hmem => h (List.mem_cons_of_mem d hmem)
    simp [cutAt?, stripStart?, hd, ih hs]

/-- What stands before the first separator is the first piece. -/
theorem splitOn_append (h : c ∉ s) (rest : List Char) :
    splitOn [c] (s ++ c :: rest) = s :: splitOn [c] rest := by
  rw [splitOn, dif_neg (List.cons_ne_nil c [])]
  split
  next hcut =>
    rw [cutAt?_append h] at hcut
    cases hcut
  next before after hcut =>
    rw [cutAt?_append h] at hcut
    obtain ⟨rfl, rfl⟩ := Prod.mk.inj (Option.some.inj hcut)
    rfl

/-- Pieces that are each ended by the separator are found again. -/
theorem splitOn_flatMap_append {pieces : List (List Char)} (h : ∀ piece ∈ pieces, c ∉ piece) :
    splitOn [c] (pieces.flatMap (· ++ [c])) = pieces ++ [[]] := by
  induction pieces with
  | nil => exact splitOn_of_not_mem List.not_mem_nil
  | cons piece pieces ih =>
    obtain ⟨hpiece, hpieces⟩ := List.forall_mem_cons.mp h
    rw [List.flatMap_cons, List.append_assoc, List.singleton_append, splitOn_append hpiece,
      ih hpieces]
    rfl

/-- The separator stands between the first piece and the others. -/
theorem joinWith_cons (sep piece next : List Char) (pieces : List (List Char)) :
    joinWith sep (piece :: next :: pieces) = piece ++ sep ++ joinWith sep (next :: pieces) := by
  unfold joinWith
  rw [List.intersperse_cons_cons, List.flatten_cons, List.flatten_cons, List.append_assoc]

/-- Pieces with the separator between each two of them are found again. -/
theorem splitOn_joinWith {pieces : List (List Char)} (hne : pieces ≠ [])
    (h : ∀ piece ∈ pieces, c ∉ piece) : splitOn [c] (joinWith [c] pieces) = pieces := by
  induction pieces with
  | nil => exact absurd rfl hne
  | cons piece pieces ih =>
    obtain ⟨hpiece, hpieces⟩ := List.forall_mem_cons.mp h
    cases pieces with
    | nil =>
      have hone : joinWith [c] [piece] = piece := List.append_nil piece
      rw [hone, splitOn_of_not_mem hpiece]
    | cons next pieces =>
      rw [joinWith_cons, List.append_assoc, List.singleton_append, splitOn_append hpiece,
        ih (List.cons_ne_nil next pieces) hpieces]

/-! ### Replacements -/

/-- The length of joined pieces is that of all of them and of the separators between them. -/
theorem length_joinWith (sep piece : List Char) (pieces : List (List Char)) :
    (joinWith sep (piece :: pieces)).length =
      (piece :: pieces).flatten.length + pieces.length * sep.length := by
  unfold joinWith
  induction pieces generalizing piece with
  | nil => simp
  | cons next pieces ih =>
    rw [List.intersperse_cons_cons, List.flatten_cons, List.flatten_cons, List.length_append,
      List.length_append, ih, List.length_cons, Nat.add_one_mul]
    simp only [List.flatten_cons, List.length_append]
    omega

/-- One character is replaced wherever it stands. -/
theorem replaceAll_singleton (c : Char) (value s : List Char) :
    replaceAll [c] value s = s.flatMap fun d => if d = c then value else [d] := by
  induction hlength : s.length using Nat.strong_induction_on generalizing s with
  | _ n ih =>
    have hkeep (s : List Char) (hs : c ∉ s) :
        s.flatMap (fun d => if d = c then value else [d]) = s := by
      rw [List.flatMap_congr (g := fun d => [d]) fun d hd => if_neg (ne_of_mem_of_not_mem hd hs)]
      exact List.flatMap_singleton' s
    by_cases hc : c ∈ s
    · -- What stands before the first occurrence is kept, and the rest is shorter.
      obtain ⟨before, after, rfl, hbefore⟩ := List.eq_append_cons_of_mem hc
      have hafter := ih after.length (by simp at hlength; omega) after rfl
      obtain ⟨next, pieces, hpieces⟩ := List.exists_cons_of_ne_nil (splitOn_ne_nil [c] after)
      unfold replaceAll at hafter ⊢
      rw [splitOn_append hbefore, hpieces, joinWith_cons, ← hpieces, hafter, List.flatMap_append,
        List.flatMap_cons, if_pos rfl, hkeep before hbefore, List.append_assoc]
    · rw [hkeep s hc, replaceAll, splitOn_of_not_mem hc]
      exact List.append_nil s

/-- A text that holds a part has a piece before and a piece after it. -/
theorem exists_splitOn_of_isInfix {mark : List Char} (hmark : mark ≠ [])
    (h : isInfix mark s = true) :
    ∃ first second pieces, splitOn mark s = first :: second :: pieces := by
  obtain ⟨⟨first, after⟩, hcut⟩ := Option.isSome_iff_exists.mp h
  obtain ⟨second, pieces, hpieces⟩ := List.exists_cons_of_ne_nil (splitOn_ne_nil mark after)
  refine ⟨first, second, pieces, ?_⟩
  rw [splitOn, dif_neg hmark]
  split
  next hnone =>
    rw [hcut] at hnone
    cases hnone
  next before rest hsome =>
    obtain ⟨rfl, rfl⟩ := Prod.mk.inj (Option.some.inj (hcut.symm.trans hsome))
    rw [hpieces]

/-- What stands between pieces can be told from the whole. -/
theorem eq_of_joinWith_eq {value value' first second : List Char} {pieces : List (List Char)}
    (h : joinWith value (first :: second :: pieces) = joinWith value' (first :: second :: pieces)) :
    value = value' := by
  -- Both stand between the same pieces equally often, so they have one length.
  have hlength : value.length = value'.length := by
    have htotal := congrArg List.length h
    rw [length_joinWith, length_joinWith, Nat.add_left_cancel_iff, List.length_cons] at htotal
    exact Nat.eq_of_mul_eq_mul_left (Nat.succ_pos _) htotal
  rw [joinWith_cons, joinWith_cons, List.append_assoc, List.append_assoc] at h
  exact (List.append_inj (List.append_cancel_left h) hlength).1

/-- A part of a text is not replaced by nothing and by something with the same result. -/
theorem replaceAll_ne {mark value : List Char} (hmark : mark ≠ []) (h : isInfix mark s = true)
    (hvalue : value ≠ []) : replaceAll mark value s ≠ replaceAll mark [] s := by
  obtain ⟨first, second, pieces, hpieces⟩ := exists_splitOn_of_isInfix hmark h
  rw [replaceAll, replaceAll, hpieces]
  exact fun heq => hvalue (eq_of_joinWith_eq heq)

end Launcher.Text
