import Launcher.Ranking
import Mathlib.Data.List.Dedup
import Mathlib.Data.List.Nodup
import Mathlib.Data.List.Perm.Basic

namespace Launcher

/-!
# Ranking keeps the best

The results of all streams are sorted by score, kind and place, and of those with one action only
the first is kept, up to a limit. Sorting here is stable, and "first" is therefore also about the
order in which the results came. To say so, each candidate is taken with its place: the order of
candidates at their places is strict and total, and what is kept is stated in terms of that order
alone.

* `bitsKey` — the total order of doubles by their bits, in which those that are not numbers have
  their places too.
* `Standing` — what ranking looks at in a candidate; `rankBy` ranks candidates of any type by it,
  and `rank` is that for results (`rank_eq`).
* `RanksBefore` — the order of candidates at their places in the streams; `placed_sorted` says that
  sorting puts them into that order.
* `distinctBy` — one element for each key; `exists_mem_distinctBy` and `rel_of_mem_distinctBy` say
  that it is the first of those with the key.
* `HoldsBest` — some candidates are the best ones, one for each action, of all.
* `rank_isBestOf` — what is ranked are the best candidates.
-/

/-! ### The order of scores -/

/-- The place of a double in the total order of doubles, by its bits. -/
def bitsKey (bits : UInt64) : Int :=
  if bits.toNat < Decimal.signBit then bits.toNat else -(bits.toNat - Decimal.signBit : Nat) - 1

theorem orderKey_eq (x : Float) : orderKey x = bitsKey x.toBits := rfl

/-- Different doubles have different places in their order. -/
theorem bitsKey_injective : Function.Injective bitsKey := by
  intro a b h
  unfold bitsKey at h
  apply UInt64.toNat_inj.mp
  split at h <;> split at h <;> omega

/-! ### Standings -/

/-- What ranking looks at in a candidate: the bits of its score, its kind and its action. -/
structure Standing where
  scoreBits : UInt64
  kind : HitKind
  action : Action

/-- The standing of a result. -/
def Hit.standing (hit : Hit) : Standing :=
  ⟨hit.score.toBits, hit.kind, hit.action⟩

/-- A standing before another or level with it: by falling score, then by the priority of its
kind. -/
def Standing.precedes (s t : Standing) : Bool :=
  bitsKey t.scoreBits < bitsKey s.scoreBits ||
    (bitsKey s.scoreBits == bitsKey t.scoreBits && s.kind.priority ≤ t.kind.priority)

/-- Results are compared by their standings. -/
theorem Hit.precedes_eq (x y : Hit) : x.precedes y = x.standing.precedes y.standing := by
  unfold precedes Standing.precedes
  rw [orderKey_eq, orderKey_eq]
  rfl

/-- A standing is before another by its score, or by its priority if the scores have one place. -/
theorem Standing.precedes_iff {s t : Standing} : s.precedes t = true ↔
    bitsKey t.scoreBits < bitsKey s.scoreBits ∨
      bitsKey s.scoreBits = bitsKey t.scoreBits ∧ s.kind.priority ≤ t.kind.priority := by
  simp [precedes]

/-- Standings can be sorted so. -/
theorem Standing.precedes_trans {s t u : Standing} (hst : s.precedes t) (htu : t.precedes u) :
    s.precedes u := by
  rw [precedes_iff] at *
  omega

/-- Of two standings one precedes the other. -/
theorem Standing.precedes_total (s t : Standing) : s.precedes t || t.precedes s := by
  rw [Bool.or_eq_true, precedes_iff, precedes_iff]
  omega

/-! ### One for each key -/

section Distinct

variable {α β κ : Type} [DecidableEq κ] {key : α → κ} {seen : List κ} {xs : List α} {x y : α}

/-- The elements with one for each key that is not among `seen`, the first. -/
def distinctBy (key : α → κ) (seen : List κ) : List α → List α
  | [] => []
  | x :: xs =>
    if key x ∈ seen then distinctBy key seen xs else x :: distinctBy key (key x :: seen) xs

/-- Elements can be told by a key of what they were made from. -/
theorem distinctBy_map (f : β → α) (seen : List κ) (xs : List β) :
    distinctBy key seen (xs.map f) = (distinctBy (key ∘ f) seen xs).map f := by
  induction xs generalizing seen with
  | nil => rfl
  | cons x xs ih =>
    simp only [List.map_cons, distinctBy, Function.comp_apply, ih]
    split <;> rfl

/-- Nothing is added, and the order stays. -/
theorem distinctBy_sublist (key : α → κ) (seen : List κ) (xs : List α) :
    (distinctBy key seen xs).Sublist xs := by
  induction xs generalizing seen with
  | nil => exact .slnil
  | cons x xs ih =>
    unfold distinctBy
    split
    next => exact (ih seen).cons x
    next => exact (ih _).cons_cons x

/-- No element has a key that was seen before. -/
theorem key_notMem_of_mem_distinctBy (h : x ∈ distinctBy key seen xs) : key x ∉ seen := by
  induction xs generalizing seen with
  | nil => exact nomatch h
  | cons first xs ih =>
    unfold distinctBy at h
    split at h
    next => exact ih h
    next hfresh =>
      obtain rfl | h := List.mem_cons.mp h
      · exact hfresh
      · exact fun hmem => ih h (List.mem_cons_of_mem _ hmem)

/-- No two elements have one key. -/
theorem nodup_keys_distinctBy (key : α → κ) (seen : List κ) (xs : List α) :
    ((distinctBy key seen xs).map key).Nodup := by
  induction xs generalizing seen with
  | nil => exact List.nodup_nil
  | cons x xs ih =>
    unfold distinctBy
    split
    next => exact ih seen
    next =>
      rw [List.map_cons, List.nodup_cons]
      refine ⟨?_, ih _⟩
      intro hmem
      obtain ⟨y, hy, hkey⟩ := List.mem_map.mp hmem
      exact key_notMem_of_mem_distinctBy hy (hkey ▸ List.mem_cons_self)

/-- The element that stands for a key is the first with it, so none comes before it in the order of
the list. -/
theorem exists_mem_distinctBy {r : α → α → Prop} (hsorted : xs.Pairwise r) (hy : y ∈ xs)
    (hfresh : key y ∉ seen) :
    ∃ x ∈ distinctBy key seen xs, key x = key y ∧ (x = y ∨ r x y) := by
  induction xs generalizing seen with
  | nil => exact nomatch hy
  | cons first xs ih =>
    obtain ⟨hfirst, hsorted⟩ := List.pairwise_cons.mp hsorted
    unfold distinctBy
    obtain rfl | hy := List.mem_cons.mp hy
    · rw [if_neg hfresh]
      exact ⟨y, List.mem_cons_self, rfl, .inl rfl⟩
    · split
      next => exact ih hsorted hy hfresh
      next =>
        by_cases hkey : key first = key y
        · exact ⟨first, List.mem_cons_self, hkey, .inr (hfirst y hy)⟩
        · have hfresh : key y ∉ key first :: seen := by simp [hfresh, Ne.symm hkey]
          obtain ⟨x, hx, hsame⟩ := ih hsorted hy hfresh
          exact ⟨x, List.mem_cons_of_mem _ hx, hsame⟩

/-- Every key has an element that stands for it. -/
theorem exists_mem_distinctBy_nil {r : α → α → Prop} (key : α → κ) (hsorted : xs.Pairwise r)
    (hy : y ∈ xs) : ∃ x ∈ distinctBy key [] xs, key x = key y ∧ (x = y ∨ r x y) :=
  exists_mem_distinctBy hsorted hy List.not_mem_nil

/-- The element that stands for a key comes before all others with it. -/
theorem rel_of_mem_distinctBy {r : α → α → Prop} (hsorted : xs.Pairwise r)
    (hx : x ∈ distinctBy key [] xs) (hy : y ∈ xs) (hkey : key y = key x) (hne : y ≠ x) : r x y := by
  obtain ⟨z, hz, hzkey, hzy⟩ := exists_mem_distinctBy_nil key hsorted hy
  obtain rfl : z = x :=
    List.inj_on_of_nodup_map (nodup_keys_distinctBy key [] xs) hz hx (hzkey.trans hkey)
  exact hzy.resolve_left hne.symm

/-- There are as many elements as there are keys. -/
theorem length_distinctBy (key : α → κ) (xs : List α) :
    (distinctBy key [] xs).length = (xs.map key).dedup.length := by
  have hperm : ((distinctBy key [] xs).map key).Perm (xs.map key).dedup := by
    rw [List.perm_ext_iff_of_nodup (nodup_keys_distinctBy key [] xs) (List.nodup_dedup _)]
    intro k
    rw [List.mem_dedup]
    constructor
    · exact fun hk => ((distinctBy_sublist key [] xs).map key).subset hk
    · intro hk
      obtain ⟨y, hy, rfl⟩ := List.mem_map.mp hk
      obtain ⟨x, hx, hkey, -⟩ :=
        exists_mem_distinctBy (r := fun _ _ => True) (List.pairwise_of_forall fun _ _ => trivial) hy
          (List.not_mem_nil (a := key y))
      exact List.mem_map.mpr ⟨x, hx, hkey⟩
  rw [← hperm.length_eq, List.length_map]

end Distinct

/-! ### Ranking by standings -/

variable {α : Type} {standing : α → Standing} {limit : Nat} {candidates : List α}

/-- The best of candidates of any type, at most `limit`, one for each action. -/
def rankBy (standing : α → Standing) (limit : Nat) (candidates : List α) : List α :=
  (distinctBy (fun x => (standing x).action) []
    (candidates.mergeSort fun x y => (standing x).precedes (standing y))).take limit

/-- The program keeps one result for each action. -/
theorem distinctActions_eq (seen : List Action) (hits : List Hit) :
    distinctActions seen hits = distinctBy (fun hit => hit.standing.action) seen hits := by
  induction hits generalizing seen with
  | nil => rfl
  | cons hit hits ih =>
    simp only [distinctActions, distinctBy, ih]
    rfl

/-- Results are ranked by their standings. -/
theorem rank_eq (limit : Nat) (candidates : List Hit) :
    rank limit candidates = rankBy Hit.standing limit candidates := by
  have hprecedes : Hit.precedes = fun x y => x.standing.precedes y.standing :=
    funext₂ Hit.precedes_eq
  rw [rank, rankBy, distinctActions_eq, hprecedes]

/-! ### The order of candidates at their places -/

/-- A candidate at its place ranks before another: its score is higher; or the scores are the same and
its kind has priority; or the priorities are the same too, and its place comes first. -/
def RanksBefore (standing : α → Standing) (x y : α × Nat) : Prop :=
  bitsKey (standing y.1).scoreBits < bitsKey (standing x.1).scoreBits ∨
    (standing x.1).scoreBits = (standing y.1).scoreBits ∧
      ((standing x.1).kind.priority < (standing y.1).kind.priority ∨
        (standing x.1).kind.priority = (standing y.1).kind.priority ∧ x.2 < y.2)

/-- Scores are the same bits exactly if they have one place in the order. -/
theorem ranksBefore_iff {x y : α × Nat} : RanksBefore standing x y ↔
    bitsKey (standing y.1).scoreBits < bitsKey (standing x.1).scoreBits ∨
      bitsKey (standing x.1).scoreBits = bitsKey (standing y.1).scoreBits ∧
        ((standing x.1).kind.priority < (standing y.1).kind.priority ∨
          (standing x.1).kind.priority = (standing y.1).kind.priority ∧ x.2 < y.2) := by
  rw [bitsKey_injective.eq_iff]
  rfl

/-- The order of candidates at their places is transitive. -/
theorem RanksBefore.trans {x y z : α × Nat} (hxy : RanksBefore standing x y)
    (hyz : RanksBefore standing y z) : RanksBefore standing x z := by
  rw [ranksBefore_iff] at *
  omega

/-- The candidates at their places, in rank order. -/
def placed (standing : α → Standing) (candidates : List α) : List (α × Nat) :=
  candidates.zipIdx.mergeSort
    (List.zipIdxLE fun x y => (standing x).precedes (standing y))

/-- Without their places, they are the sorted candidates. -/
theorem map_fst_placed (standing : α → Standing) (candidates : List α) :
    (placed standing candidates).map Prod.fst =
      candidates.mergeSort fun x y => (standing x).precedes (standing y) :=
  List.mergeSort_zipIdx

/-- Sorting drops no candidate and adds none. -/
theorem placed_perm (standing : α → Standing) (candidates : List α) :
    (placed standing candidates).Perm candidates.zipIdx :=
  List.mergeSort_perm _ _

/-- A candidate that is not behind another, and at another place, ranks before it. -/
theorem ranksBefore_of_zipIdxLE {x y : α × Nat} (hplace : x.2 ≠ y.2)
    (h : List.zipIdxLE (fun x y => (standing x).precedes (standing y)) x y = true) :
    RanksBefore standing x y := by
  unfold List.zipIdxLE at h
  rw [ranksBefore_iff]
  split at h
  next hxy =>
    rw [Standing.precedes_iff] at hxy
    split at h
    next hyx =>
      rw [Standing.precedes_iff] at hyx
      have hle : x.2 ≤ y.2 := of_decide_eq_true h
      omega
    next hyx =>
      rw [Standing.precedes_iff] at hyx
      omega
  next => exact nomatch h

/-- Sorting puts candidates into their order: it is stable, so places decide last. -/
theorem placed_sorted (standing : α → Standing) (candidates : List α) :
    (placed standing candidates).Pairwise (RanksBefore standing) := by
  have hle := List.pairwise_mergeSort
    (List.zipIdxLE_trans fun x y z => Standing.precedes_trans (s := standing x))
    (List.zipIdxLE_total fun x y => Standing.precedes_total (standing x) (standing y))
    candidates.zipIdx
  -- No two candidates have one place, so the order is strict.
  have hplaces : ((placed standing candidates).map Prod.snd).Nodup := by
    rw [((placed_perm standing candidates).map Prod.snd).nodup_iff, List.zipIdx_map_snd]
    exact List.nodup_range'
  have hne : (placed standing candidates).Pairwise fun x y => x.2 ≠ y.2 :=
    List.pairwise_map.mp hplaces
  exact (hle.and hne).imp fun ⟨h, hplace⟩ => ranksBefore_of_zipIdxLE hplace h

/-! ### The best -/

/-- Some candidates at their places are the best of all, at most `limit`, and one for each action. -/
structure HoldsBest (standing : α → Standing) (limit : Nat) (candidates top : List (α × Nat)) :
    Prop where
  /-- They stand in rank order. -/
  sorted : top.Pairwise (RanksBefore standing)
  /-- Their actions are different. -/
  nodup : (top.map fun x => (standing x.1).action).Nodup
  /-- There is one for each action of all candidates, up to the limit. -/
  length : top.length = min limit (candidates.map fun x => (standing x.1).action).dedup.length
  /-- Each of them is a candidate, and ranks before all others with its action. -/
  best : ∀ x ∈ top, x ∈ candidates ∧ ∀ y ∈ candidates,
    (standing y.1).action = (standing x.1).action → y ≠ x → RanksBefore standing x y
  /-- A candidate is left out for one with its action that ranks before it, or for as many as the
  limit allows that all do. -/
  leftOut : ∀ y ∈ candidates, y ∉ top →
    (∃ x ∈ top, (standing x.1).action = (standing y.1).action ∧ RanksBefore standing x y) ∨
      (top.length = limit ∧ ∀ x ∈ top, RanksBefore standing x y)

/-- A list is what ranking should make of candidates: the best of them at their places. -/
def IsBestOf (standing : α → Standing) (limit : Nat) (candidates ranked : List α) : Prop :=
  ∃ top, top.map Prod.fst = ranked ∧ HoldsBest standing limit candidates.zipIdx top

/-- What is cut off from candidates in rank order ranks behind all that are kept, and then these are as
many as the limit allows. -/
theorem cut_off {sorted : List (α × Nat)} (hsorted : sorted.Pairwise (RanksBefore standing))
    {x : α × Nat} (hx : x ∈ sorted.drop limit) :
    (sorted.take limit).length = limit ∧ ∀ y ∈ sorted.take limit, RanksBefore standing y x := by
  constructor
  · have hpos : 0 < (sorted.drop limit).length := List.length_pos_of_mem hx
    rw [List.length_drop] at hpos
    exact List.length_take_of_le (by omega)
  · rw [← List.take_append_drop limit sorted] at hsorted
    exact fun y hy => (List.pairwise_append.mp hsorted).2.2 y hy x hx

/-- Of candidates in rank order, the first ones with an action each are the best. -/
theorem holdsBest_distinctBy {sorted : List (α × Nat)}
    (hsorted : sorted.Pairwise (RanksBefore standing)) (limit : Nat) :
    HoldsBest standing limit sorted
      ((distinctBy (fun x => (standing x.1).action) [] sorted).take limit) := by
  have hsub := distinctBy_sublist (fun x => (standing x.1).action) [] sorted
  have hfirsts := hsorted.sublist hsub
  refine
    { sorted := hfirsts.sublist (List.take_sublist _ _)
      nodup := (nodup_keys_distinctBy _ [] sorted).sublist ((List.take_sublist _ _).map _)
      length := by rw [List.length_take, length_distinctBy]
      best := ?best
      leftOut := ?leftOut }
  case best =>
    intro x hx
    have hx := List.mem_of_mem_take hx
    exact ⟨hsub.subset hx, fun y hy => rel_of_mem_distinctBy hsorted hx hy⟩
  case leftOut =>
    intro y hy hout
    obtain ⟨x, hx, hkey, hxy⟩ :=
      exists_mem_distinctBy_nil (fun x => (standing x.1).action) hsorted hy
    rw [← List.take_append_drop limit (distinctBy _ [] sorted), List.mem_append] at hx
    obtain hx | hx := hx
    · obtain rfl | hxy := hxy
      · exact absurd hx hout
      · exact .inl ⟨x, hx, hkey, hxy⟩
    · -- The first one with this action was itself cut off.
      obtain ⟨hlength, hbehind⟩ := cut_off hfirsts hx
      refine .inr ⟨hlength, fun z hz => ?_⟩
      obtain rfl | hxy := hxy
      · exact hbehind z hz
      · exact (hbehind z hz).trans hxy

/-- What is said of the best candidates does not depend on the order in which all are listed. -/
theorem HoldsBest.of_perm {candidates others top : List (α × Nat)}
    (h : HoldsBest standing limit candidates top) (hperm : candidates.Perm others) :
    HoldsBest standing limit others top where
  sorted := h.sorted
  nodup := h.nodup
  length := by
    rw [h.length, (hperm.map _).dedup.length_eq]
  best x hx := ⟨hperm.mem_iff.mp (h.best x hx).1, fun y hy => (h.best x hx).2 y (hperm.mem_iff.mpr hy)⟩
  leftOut y hy := h.leftOut y (hperm.mem_iff.mpr hy)

/-- What is ranked are the best candidates. -/
theorem rankBy_isBestOf (standing : α → Standing) (limit : Nat) (candidates : List α) :
    IsBestOf standing limit candidates (rankBy standing limit candidates) := by
  refine ⟨_, ?_, (holdsBest_distinctBy (placed_sorted standing candidates) limit).of_perm
    (placed_perm standing candidates)⟩
  unfold rankBy
  rw [← map_fst_placed, distinctBy_map, List.map_take]
  rfl

/-- **Ranking keeps the best.** The ranked results of a search are the best candidates of all its
streams, by falling score, priority and place, one for each action and at most as many as the limit
allows. So it is for candidates of any type with scores of any bits. -/
theorem rank_isBestOf :
    (∀ (streams : List (List Hit)) (limit : Nat),
      IsBestOf Hit.standing limit streams.flatten (Ranking.ofStreams streams limit).ranked) ∧
    ∀ {α : Type} (standing : α → Standing) (streams : List (List α)) (limit : Nat),
      IsBestOf standing limit streams.flatten (rankBy standing limit streams.flatten) := by
  refine ⟨?_, fun standing streams limit => rankBy_isBestOf standing limit streams.flatten⟩
  intro streams limit
  show IsBestOf Hit.standing limit streams.flatten (rank limit streams.flatten)
  rw [rank_eq]
  exact rankBy_isBestOf Hit.standing limit streams.flatten

end Launcher
