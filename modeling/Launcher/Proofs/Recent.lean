import Launcher.Proofs.History
import Mathlib.Data.List.Dedup
import Mathlib.Data.List.Induction

namespace Launcher.History

/-!
# The launch history ranks what was launched

A history keeps a row for each item: how often it was launched, and when last. What it says of the
past is stated against the past itself, a list of uses: the counts are numbers of uses, the times
are those of the last ones, and the list of recent items is the ranking that these make.

* `Use` — a launch of an item at a time; `usesOf` are those of one identity.
* `Tells` — the rows of a history tell, for each identity, the last use and the number of uses.
* `Tells.record`, `tells_after` — one more use is told, so all are, in whatever order of time.
* `RanksAbove` — the order of identities, in terms of the uses: by the time of the last use, then by
  the number of uses, then by the identity. `Tells.ranksAbove` says that rows are sorted by it.
* `recent_ranks` — the list of recent items is what this order makes of the uses.

Times need not grow: "last" means the use that came last, whatever time it had.
-/

/-- A launch of an item at a time. -/
structure Use where
  item : Item
  time : Int
deriving Repr, DecidableEq

/-- The history of some uses. -/
def after (uses : List Use) : History :=
  uses.foldl (fun h use => h.record use.item use.time) {}

/-- The last use is the last one recorded. -/
@[simp] theorem after_concat (uses : List Use) (use : Use) :
    after (uses ++ [use]) = (after uses).record use.item use.time :=
  List.foldl_append

/-! ### Uses of one identity -/

/-- The uses of the item with an identity. -/
def usesOf (uses : List Use) (id : String) : List Use :=
  uses.filter (·.item.id == id)

/-- The last use of the item with an identity. -/
def lastUse? (uses : List Use) (id : String) : Option Use :=
  (usesOf uses id).getLast?

/-- The identities of the used items, each once. -/
def usedIds (uses : List Use) : List String :=
  (uses.map (·.item.id)).dedup

variable {uses : List Use} {use : Use} {h : History} {id : String}

theorem usesOf_concat_of_eq (hid : use.item.id = id) :
    usesOf (uses ++ [use]) id = usesOf uses id ++ [use] := by
  simp [usesOf, hid]

theorem usesOf_concat_of_ne (hid : use.item.id ≠ id) :
    usesOf (uses ++ [use]) id = usesOf uses id := by
  simp [usesOf, hid]

/-- The use that came last is the last of its identity. -/
theorem lastUse?_concat_of_eq (hid : use.item.id = id) :
    lastUse? (uses ++ [use]) id = some use := by
  rw [lastUse?, usesOf_concat_of_eq hid, List.getLast?_append, List.getLast?_singleton]
  rfl

theorem lastUse?_concat_of_ne (hid : use.item.id ≠ id) :
    lastUse? (uses ++ [use]) id = lastUse? uses id := by
  rw [lastUse?, usesOf_concat_of_ne hid, lastUse?]

/-- An identity was used if an item with it was. -/
theorem mem_usedIds : id ∈ usedIds uses ↔ ∃ use ∈ uses, use.item.id = id := by
  rw [usedIds, List.mem_dedup, List.mem_map]

/-- **An identity counts as often as it was used.** -/
theorem count_after (uses : List Use) (id : String) :
    (after uses).count id = (usesOf uses id).length := by
  induction uses using List.reverseRecOn with
  | nil => rfl
  | append_singleton uses use ih =>
    rw [after_concat, count_record, ih]
    by_cases hid : use.item.id = id
    · rw [usesOf_concat_of_eq hid, if_pos hid, List.length_append, List.length_singleton]
    · rw [usesOf_concat_of_ne hid, if_neg hid, Nat.add_zero]

/-! ### Rows -/

/-- The rows of a history have different identities, those that were used, and each of them tells
the last use. -/
structure Tells (uses : List Use) (h : History) : Prop where
  nodup : (ids h.launches).Nodup
  mem_ids : ∀ id, id ∈ ids h.launches ↔ id ∈ usedIds uses
  last : ∀ row ∈ h.launches, lastUse? uses row.item.id = some ⟨row.item, row.lastUsed⟩

/-- After a launch a row is that of the launched item, or it is of another item and was there. -/
theorem mem_recordIn_of_nodup {item : Item} {time : Int} {rows : List Launch} {row : Launch}
    (hnodup : (ids rows).Nodup) (hrow : row ∈ recordIn item time rows) :
    (row.item = item ∧ row.lastUsed = time) ∨ (row ∈ rows ∧ row.item.id ≠ item.id) := by
  induction rows with
  | nil =>
    obtain rfl := List.mem_singleton.mp hrow
    exact .inl ⟨rfl, rfl⟩
  | cons first rows ih =>
    obtain ⟨hfresh, hnodup⟩ := List.nodup_cons.mp hnodup
    by_cases hfirst : first.item.id = item.id
    · rw [recordIn_cons_of_eq hfirst] at hrow
      obtain rfl | hrow := List.mem_cons.mp hrow
      · exact .inl ⟨rfl, rfl⟩
      · -- A row behind the one that was replaced cannot have its identity too.
        refine .inr ⟨List.mem_cons_of_mem _ hrow, fun hid => hfresh ?_⟩
        exact List.mem_map.mpr ⟨row, hrow, hid.trans hfirst.symm⟩
    · rw [recordIn_cons_of_ne hfirst] at hrow
      obtain rfl | hrow := List.mem_cons.mp hrow
      · exact .inr ⟨List.mem_cons_self, hfirst⟩
      · exact (ih hnodup hrow).imp_right fun ⟨hmem, hid⟩ => ⟨List.mem_cons_of_mem _ hmem, hid⟩

/-- The row of an identity holds its count. -/
theorem count_eq_of_mem {rows : List Launch} (hnodup : (ids rows).Nodup) {row : Launch}
    (hrow : row ∈ rows) : History.count ⟨rows⟩ row.item.id = row.count := by
  induction rows with
  | nil => exact nomatch hrow
  | cons first rows ih =>
    obtain ⟨hfresh, hnodup⟩ := List.nodup_cons.mp hnodup
    rw [count_cons]
    obtain rfl | hrow := List.mem_cons.mp hrow
    · exact if_pos rfl
    · rw [if_neg fun hid => hfresh (List.mem_map.mpr ⟨row, hrow, hid.symm⟩), ih hnodup hrow]

/-- After a launch there is a row for the launched item besides those that there were. -/
theorem mem_ids_recordIn {item : Item} {time : Int} {rows : List Launch} :
    id ∈ ids (recordIn item time rows) ↔ id ∈ ids rows ∨ id = item.id := by
  rw [ids_recordIn]
  split
  next hmem =>
    refine ⟨.inl, ?_⟩
    rintro (hid | rfl)
    · exact hid
    · exact hmem
  next => rw [List.mem_append, List.mem_singleton]

/-- An empty history tells of no use. -/
theorem tells_nil : Tells [] {} where
  nodup := List.nodup_nil
  mem_ids _ := Iff.rfl
  last _ hrow := nomatch hrow

/-- A use is told by the history that it leaves. -/
theorem Tells.record (ht : Tells uses h) (use : Use) :
    Tells (uses ++ [use]) (h.record use.item use.time) where
  nodup := nodup_recordIn ht.nodup
  mem_ids id := by
    have hold := ht.mem_ids id
    rw [mem_usedIds] at hold ⊢
    show id ∈ ids (recordIn _ _ h.launches) ↔ _
    rw [mem_ids_recordIn, hold]
    simp only [List.mem_append, List.mem_singleton, or_and_right, exists_or, exists_eq_left,
      eq_comm (a := id)]
  last row hrow := by
    -- The row of the launched item tells this use; to any other this is no use of its identity.
    obtain ⟨hitem, htime⟩ | ⟨hold, hid⟩ := mem_recordIn_of_nodup ht.nodup hrow
    · rw [lastUse?_concat_of_eq (by rw [hitem]), hitem, htime]
    · rw [lastUse?_concat_of_ne (Ne.symm hid), ht.last row hold]

/-- The history of some uses tells of them. -/
theorem tells_after (uses : List Use) : Tells uses (after uses) := by
  induction uses using List.reverseRecOn with
  | nil => exact tells_nil
  | append_singleton uses use ih => exact after_concat uses use ▸ ih.record use

/-- The count of a row is the number of uses. -/
theorem Tells.count_eq (ht : Tells uses (after uses)) {row : Launch}
    (hrow : row ∈ (after uses).launches) : row.count = (usesOf uses row.item.id).length := by
  rw [← count_after, ← count_eq_of_mem ht.nodup hrow]

/-- There are as many rows as identities that were used. -/
theorem Tells.length_launches (ht : Tells uses h) :
    h.launches.length = (usedIds uses).length := by
  have hperm : (ids h.launches).Perm (usedIds uses) :=
    (List.perm_ext_iff_of_nodup ht.nodup (List.nodup_dedup _)).mpr ht.mem_ids
  rw [← hperm.length_eq, ids, List.length_map]

/-! ### The order of rows -/

/-- A row precedes another by the time, then by the count, then by the identity. -/
theorem precedes_iff {a b : Launch} : precedes a b = true ↔ b.lastUsed < a.lastUsed ∨
    a.lastUsed = b.lastUsed ∧ (b.count < a.count ∨ a.count = b.count ∧ a.item.id ≤ b.item.id) := by
  simp only [precedes, Bool.or_eq_true, Bool.and_eq_true, decide_eq_true_eq, beq_iff_eq]

/-- Of two rows one precedes the other. -/
theorem precedes_total (a b : Launch) : (precedes a b || precedes b a) = true := by
  rw [Bool.or_eq_true, precedes_iff, precedes_iff]
  have hid := String.le_total a.item.id b.item.id
  grind

/-- Rows can be sorted so. -/
theorem precedes_trans (a b c : Launch) (hab : precedes a b = true) (hbc : precedes b c = true) :
    precedes a c = true := by
  rw [precedes_iff] at hab hbc ⊢
  have hid : a.item.id ≤ b.item.id → b.item.id ≤ c.item.id → a.item.id ≤ c.item.id :=
    String.le_trans
  grind

/-! ### The order of identities -/

/-- The time of the last use of an identity. -/
def lastTime (uses : List Use) (id : String) : Int :=
  ((lastUse? uses id).map (·.time)).getD 0

/-- An identity ranks above another: it was used later, or it was used last at the same time and
more often, or as often and comes first. -/
def RanksAbove (uses : List Use) (a b : String) : Prop :=
  lastTime uses b < lastTime uses a ∨
  lastTime uses a = lastTime uses b ∧
    ((usesOf uses b).length < (usesOf uses a).length ∨
      (usesOf uses a).length = (usesOf uses b).length ∧ a < b)

/-- No two identities rank above each other. -/
theorem RanksAbove.asymm {a b : String} (hab : RanksAbove uses a b) : ¬RanksAbove uses b a := by
  have hid : a < b → ¬b < a := String.lt_asymm
  unfold RanksAbove at *
  grind

/-- Rows are in the order of their identities. -/
theorem Tells.ranksAbove (ht : Tells uses (after uses)) {a b : Launch}
    (ha : a ∈ (after uses).launches) (hb : b ∈ (after uses).launches)
    (hne : a.item.id ≠ b.item.id) (hab : precedes a b = true) :
    RanksAbove uses a.item.id b.item.id := by
  have htime {row : Launch} (hrow : row ∈ (after uses).launches) :
      lastTime uses row.item.id = row.lastUsed := by
    rw [lastTime, ht.last row hrow]
    rfl
  have hlt : a.item.id ≤ b.item.id → a.item.id < b.item.id := fun hle =>
    String.not_le.mp fun hge => hne (String.le_antisymm hle hge)
  rw [precedes_iff, ht.count_eq ha, ht.count_eq hb] at hab
  rw [RanksAbove, htime ha, htime hb]
  exact hab.imp_right fun ⟨htime, hcount⟩ =>
    ⟨htime, hcount.imp_right fun ⟨hcount, hle⟩ => ⟨hcount, hlt hle⟩⟩

/-! ### Main theorem -/

/-- The items are what the order of identities makes of some uses, cut off at a limit. -/
structure IsRanking (uses : List Use) (limit : Nat) (items : List Item) : Prop where
  nodup : (items.map (·.id)).Nodup
  last : ∀ item ∈ items, ∃ time, lastUse? uses item.id = some ⟨item, time⟩
  sorted : items.Pairwise fun a b => RanksAbove uses a.id b.id
  length_eq : items.length = min limit (usedIds uses).length
  omitted : ∀ id ∈ usedIds uses, id ∉ items.map (·.id) →
    ∀ item ∈ items, ¬RanksAbove uses id item.id

/-- The rows in their order. -/
def ranked (uses : List Use) : List Launch :=
  (after uses).launches.mergeSort precedes

/-- The recent items are those of the first rows. -/
theorem recent_after (uses : List Use) (limit : Nat) :
    (after uses).recent limit = ((ranked uses).take limit).map (·.item) := by
  rw [recent, ← ranked]
  exact List.map_congr_left fun row _ => row.readItem_eq

/-- Sorting drops no row and adds none. -/
theorem ranked_perm (uses : List Use) : (ranked uses).Perm (after uses).launches :=
  List.mergeSort_perm _ _

theorem nodup_ranked (uses : List Use) : (ids (ranked uses)).Nodup :=
  ((ranked_perm uses).map _).nodup_iff.mpr (tells_after uses).nodup

/-- The sorted rows are in the order of identities. -/
theorem pairwise_ranked (uses : List Use) :
    (ranked uses).Pairwise fun a b => RanksAbove uses a.item.id b.item.id := by
  -- Rows of one identity would precede each other, but there are no two.
  have hsorted := List.pairwise_mergeSort precedes_trans precedes_total (after uses).launches
  have hdistinct : (ranked uses).Pairwise fun a b => a.item.id ≠ b.item.id :=
    List.pairwise_map.mp (nodup_ranked uses)
  refine (hsorted.and hdistinct).imp_of_mem ?_
  rintro a b ha hb ⟨hab, hne⟩
  have hmem {row : Launch} (hrow : row ∈ ranked uses) : row ∈ (after uses).launches :=
    (ranked_perm uses).mem_iff.mp hrow
  exact (tells_after uses).ranksAbove (hmem ha) (hmem hb) hne hab

/-- **The history is a count and a ranking.** After any uses, at whatever times, each identity counts
as often as it was used, and the recent items are those that were used, as they were at their last
use, by the time of that use, the number of uses and the identity, up to the limit. -/
theorem recent_ranks (uses : List Use) (limit : Nat) :
    (∀ id, (after uses).count id = (usesOf uses id).length) ∧
    IsRanking uses limit ((after uses).recent limit) := by
  refine ⟨count_after uses, ?_⟩
  have htells := tells_after uses
  have hranked := pairwise_ranked uses
  have hperm := ranked_perm uses
  rw [recent_after]
  refine ⟨?_, ?_, ?_, ?_, ?_⟩
  · -- No identity is listed twice.
    rw [List.map_map]
    exact (nodup_ranked uses).sublist ((List.take_sublist _ _).map _)
  · -- Each item is as it was at its last use.
    intro item hitem
    obtain ⟨row, hrow, rfl⟩ := List.mem_map.mp hitem
    exact ⟨row.lastUsed, htells.last row (hperm.mem_iff.mp (List.mem_of_mem_take hrow))⟩
  · exact List.pairwise_map.mpr (hranked.sublist (List.take_sublist _ _))
  · rw [List.length_map, List.length_take, hperm.length_eq, htells.length_launches]
  · intro id hid homitted item hitem
    obtain ⟨row, hrow, rfl⟩ := List.mem_map.mp ((htells.mem_ids id).mpr hid)
    obtain ⟨listed, hlisted, rfl⟩ := List.mem_map.mp hitem
    -- The row that is not listed stands behind the limit, and so behind each that is.
    have hsplit := hperm.mem_iff.mpr hrow
    rw [← List.take_append_drop limit (ranked uses)] at hsplit hranked
    have hdropped : row ∈ (ranked uses).drop limit := by
      refine (List.mem_append.mp hsplit).resolve_left fun htaken => homitted ?_
      exact List.mem_map_of_mem (List.mem_map_of_mem htaken)
    exact ((List.pairwise_append.mp hranked).2.2 listed hlisted row hdropped).asymm

end Launcher.History
