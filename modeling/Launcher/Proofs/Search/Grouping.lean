import Launcher.Proofs.Ranking.Best
import Mathlib.Data.List.Induction

namespace Launcher

/-!
# What ranking and grouping keep

Ranking chooses among the candidates, and grouping only sorts the chosen ones into groups. Neither
makes a result of its own, and the first result that is shown is the best one. All of this is proved
along `addToGroup`, which puts one result into the groups of those before it.

* `mem_of_mem_rank` — every ranked result is one of the candidates.
* `groupHits_perm` — grouping neither loses nor adds a result.
* `groupHits_hits_ne_nil` — no group is empty.
* `groupHits_head?` — the first result of the first group is the first of all.
* `Ranking.IsGrouped` — the groups of a ranking are those of its ranked results.
-/

/-! ### Ranking -/

/-- Every ranked result is one of the candidates. -/
theorem mem_of_mem_rank {limit : Nat} {candidates : List Hit} {hit : Hit}
    (h : hit ∈ rank limit candidates) : hit ∈ candidates := by
  rw [rank_eq] at h
  have hsorted := (distinctBy_sublist _ _ _).subset (List.mem_of_mem_take h)
  exact (List.mergeSort_perm _ _).mem_iff.mp hsorted

/-! ### Grouping -/

/-- The results of some groups, group by group. -/
def listed (groups : List HitGroup) : List Hit :=
  groups.flatMap (·.hits)

@[simp] theorem listed_cons (group : HitGroup) (groups : List HitGroup) :
    listed (group :: groups) = group.hits ++ listed groups := rfl

@[simp] theorem groupHits_nil : groupHits [] = [] := rfl

@[simp] theorem groupHits_concat (hits : List Hit) (hit : Hit) :
    groupHits (hits ++ [hit]) = addToGroup hit (groupHits hits) :=
  List.foldl_append

/-- One result more is one result more in the groups. -/
theorem addToGroup_perm (hit : Hit) (groups : List HitGroup) :
    (listed (addToGroup hit groups)).Perm (hit :: listed groups) := by
  induction groups with
  | nil => exact .refl _
  | cons group groups ih =>
    unfold addToGroup
    split
    next =>
      rw [listed_cons, listed_cons, List.append_assoc]
      exact List.perm_middle
    next => exact (ih.append_left group.hits).trans List.perm_middle

/-- Grouping neither loses nor adds a result. -/
theorem groupHits_perm (hits : List Hit) : (listed (groupHits hits)).Perm hits := by
  induction hits using List.reverseRecOn with
  | nil => exact .refl _
  | append_singleton hits hit ih =>
    rw [groupHits_concat]
    have hback : (hit :: hits).Perm (hits ++ [hit]) := (List.perm_append_singleton hit hits).symm
    exact (addToGroup_perm hit _).trans ((ih.cons hit).trans hback)

/-- A result goes into a group that has results, or into a new one that has just it. -/
theorem addToGroup_hits_ne_nil {hit : Hit} {groups : List HitGroup}
    (h : ∀ group ∈ groups, group.hits ≠ []) :
    ∀ group ∈ addToGroup hit groups, group.hits ≠ [] := by
  induction groups with
  | nil => simp [addToGroup]
  | cons group groups ih =>
    obtain ⟨hgroup, hgroups⟩ := List.forall_mem_cons.mp h
    unfold addToGroup
    split
    next => exact List.forall_mem_cons.mpr ⟨by simp, hgroups⟩
    next => exact List.forall_mem_cons.mpr ⟨hgroup, ih hgroups⟩

/-- No group is empty. -/
theorem groupHits_hits_ne_nil (hits : List Hit) : ∀ group ∈ groupHits hits, group.hits ≠ [] := by
  induction hits using List.reverseRecOn with
  | nil => simp
  | append_singleton hits hit ih => exact groupHits_concat hits hit ▸ addToGroup_hits_ne_nil ih

/-- A result that is put into its group comes first only if there was none before. -/
theorem addToGroup_head? {hit : Hit} {groups : List HitGroup}
    (h : ∀ group ∈ groups, group.hits ≠ []) :
    (listed (addToGroup hit groups)).head? = (listed groups ++ [hit]).head? := by
  cases groups with
  | nil => rfl
  | cons group groups =>
    obtain ⟨first, rest, hhits⟩ := List.exists_cons_of_ne_nil (h group List.mem_cons_self)
    unfold addToGroup
    split <;> simp [hhits]

/-- The first result of the first group is the first of all. -/
theorem groupHits_head? (hits : List Hit) : (listed (groupHits hits)).head? = hits.head? := by
  induction hits using List.reverseRecOn with
  | nil => rfl
  | append_singleton hits hit ih =>
    rw [groupHits_concat, addToGroup_head? (groupHits_hits_ne_nil hits), List.head?_append, ih,
      List.head?_append]

/-! ### Rankings -/

namespace Ranking

/-- A ranking whose groups hold the ranked results. -/
def IsGrouped (r : Ranking) : Prop :=
  r.groups = groupHits r.ranked

theorem isGrouped_empty : IsGrouped {} := rfl

theorem isGrouped_ofStreams (streams : List (List Hit)) (limit : Nat) :
    (ofStreams streams limit).IsGrouped := rfl

variable {r : Ranking}

/-- What is shown group by group are the ranked results. -/
theorem IsGrouped.displayed_perm (h : r.IsGrouped) : r.displayed.Perm r.ranked := by
  have hperm := groupHits_perm r.ranked
  rwa [← h] at hperm

/-- The first result that is shown is the best. -/
theorem IsGrouped.displayed_head? (h : r.IsGrouped) : r.displayed.head? = r.best? := by
  have hhead := groupHits_head? r.ranked
  rwa [← h] at hhead

end Ranking

end Launcher
