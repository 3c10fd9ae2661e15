import Launcher.Proofs.Search.Grouping
import Launcher.Proofs.Text.Pieces

namespace Launcher

/-!
# Groups share out the ranked results

The ranked results are shown in groups. Each result names its group, and the label of the group is
that name without the blanks around it. Grouping goes through the results from the best on: a result
joins the group with its label, or opens a new one behind the others. So a group holds its results
in rank order, and the groups stand in the order of their best results.

* `trimmedGroups` — the trimmed groups of results, against which labels are compared.
* `under`, `firstRank` — the results under a label, and the rank of the first of them.
* `IsGrouping` — the groups are those of some results; `addToGroup` keeps it so for one result more
  (`IsGrouping.add`), and so `groupHits` makes it so for all.
* `Ranking.SharesOut` — what the groups of a ranking make of its results.
* `ofStreams_sharesOut` — grouping loses and reorders nothing.

The induction is on the results from the end: what is known of the groups of the first results gives
it for one more. That labels differ is part of what is kept, since only the first group with a label
takes a result.
-/

/-- The results whose group has a label when it is trimmed, in rank order. -/
def under (label : String) (ranked : List Hit) : List Hit :=
  ranked.filter fun hit => Text.trimmed hit.group == label

/-- The trimmed groups of results. -/
def trimmedGroups (ranked : List Hit) : List String :=
  ranked.map fun hit => Text.trimmed hit.group

/-- The rank of the first result whose group has a label when it is trimmed. -/
def firstRank (label : String) (ranked : List Hit) : Nat :=
  (trimmedGroups ranked).idxOf label

/-- The labels of groups. -/
def labels (groups : List HitGroup) : List String :=
  groups.map (·.label)

variable {hits : List Hit} {hit : Hit} {groups : List HitGroup} {group : HitGroup} {label : String}

/-! ### Results under a label -/

/-- The first result names the first group. -/
@[simp] theorem trimmedGroups_cons (hit : Hit) (hits : List Hit) :
    trimmedGroups (hit :: hits) = Text.trimmed hit.group :: trimmedGroups hits := rfl

/-- The last result names the last group. -/
@[simp] theorem trimmedGroups_concat (hits : List Hit) (hit : Hit) :
    trimmedGroups (hits ++ [hit]) = trimmedGroups hits ++ [Text.trimmed hit.group] :=
  List.map_append

@[simp] theorem length_trimmedGroups (hits : List Hit) :
    (trimmedGroups hits).length = hits.length :=
  List.length_map ..

/-- A result is shown under its trimmed group. -/
theorem Hit.label_eq (hit : Hit) : hit.label = Text.trimmed hit.group := rfl

theorem under_concat_of_eq (h : Text.trimmed hit.group = label) :
    under label (hits ++ [hit]) = under label hits ++ [hit] := by
  simp [under, h]

theorem under_concat_of_ne (h : Text.trimmed hit.group ≠ label) :
    under label (hits ++ [hit]) = under label hits := by
  simp [under, h]

theorem mem_under : hit ∈ under label hits ↔ hit ∈ hits ∧ Text.trimmed hit.group = label := by
  simp [under]

/-- There are none under a label that no result names. -/
theorem under_eq_nil (h : label ∉ trimmedGroups hits) : under label hits = [] := by
  rw [List.eq_nil_iff_forall_not_mem]
  intro hit hhit
  obtain ⟨hmem, rfl⟩ := mem_under.mp hhit
  exact h (List.mem_map_of_mem hmem)

/-- The first result under a label is the one at that rank. -/
theorem head?_under (label : String) (hits : List Hit) :
    (under label hits).head? = hits[firstRank label hits]? := by
  induction hits with
  | nil => rfl
  | cons hit hits ih =>
    by_cases h : Text.trimmed hit.group = label
    · simp [under, firstRank, h]
    · have hne : (Text.trimmed hit.group == label) = false := beq_eq_false_iff_ne.mpr h
      simpa [under, firstRank, hne, List.idxOf_cons] using ih

/-- A label that is there keeps the rank of its first result. -/
theorem firstRank_concat_of_mem (h : label ∈ trimmedGroups hits) (hit : Hit) :
    firstRank label (hits ++ [hit]) = firstRank label hits := by
  unfold firstRank
  rw [trimmedGroups_concat, List.idxOf_append_of_mem h]

/-- A new label has its first result at the end. -/
theorem firstRank_concat_self (h : Text.trimmed hit.group ∉ trimmedGroups hits) :
    firstRank (Text.trimmed hit.group) (hits ++ [hit]) = hits.length := by
  unfold firstRank
  rw [trimmedGroups_concat, List.idxOf_append_of_notMem h]
  simp

/-- A label that is there has its first result among the results. -/
theorem firstRank_lt (h : label ∈ trimmedGroups hits) : firstRank label hits < hits.length := by
  have hlt := List.idxOf_lt_length_of_mem h
  rwa [length_trimmedGroups] at hlt

/-! ### One result more -/

/-- A result brings a new label only at the end. -/
theorem labels_addToGroup (hit : Hit) (groups : List HitGroup) :
    labels (addToGroup hit groups) =
      if Text.trimmed hit.group ∈ labels groups then labels groups
      else labels groups ++ [Text.trimmed hit.group] := by
  unfold labels
  induction groups with
  | nil => rfl
  | cons group groups ih =>
    unfold addToGroup
    rw [Hit.label_eq]
    by_cases h : group.label = Text.trimmed hit.group
    · simp [h]
    · rw [if_neg h, List.map_cons, List.map_cons, ih]
      by_cases hmem : Text.trimmed hit.group ∈ groups.map (·.label)
      · simp [hmem]
      · simp [hmem, Ne.symm h]

/-- The groups hold the results under their labels. -/
def HoldsUnder (hits : List Hit) (groups : List HitGroup) : Prop :=
  ∀ group ∈ groups, group.hits = under group.label hits

/-- Groups without the label of a result hold what they held. -/
theorem HoldsUnder.concat (h : HoldsUnder hits groups)
    (hne : Text.trimmed hit.group ∉ labels groups) : HoldsUnder (hits ++ [hit]) groups := by
  intro group hgroup
  have hlabel : Text.trimmed hit.group ≠ group.label := fun heq =>
    hne (heq ▸ List.mem_map_of_mem hgroup)
  rw [under_concat_of_ne hlabel]
  exact h group hgroup

/-- One result more is added to the group of its label, and the others hold what they held. The
labels have to differ: only the first group with the label takes the result. -/
theorem HoldsUnder.add (h : HoldsUnder hits groups) (hnodup : (labels groups).Nodup)
    (hnew : Text.trimmed hit.group ∉ labels groups → under (Text.trimmed hit.group) hits = []) :
    HoldsUnder (hits ++ [hit]) (addToGroup hit groups) := by
  induction groups with
  | nil =>
    intro group hgroup
    obtain rfl := List.mem_singleton.mp hgroup
    rw [Hit.label_eq, under_concat_of_eq rfl, hnew List.not_mem_nil, List.nil_append]
  | cons first groups ih =>
    obtain ⟨hfirst, hrest⟩ := List.forall_mem_cons.mp h
    obtain ⟨hfresh, hnodup⟩ := List.nodup_cons.mp hnodup
    unfold addToGroup
    rw [Hit.label_eq]
    split
    -- The result joins this group; those behind have other labels.
    next heq =>
      refine List.forall_mem_cons.mpr ⟨?_, HoldsUnder.concat hrest (heq ▸ hfresh)⟩
      rw [under_concat_of_eq heq.symm, ← hfirst]
    -- This group stays as it is, and the result is for those behind.
    next hne =>
      refine List.forall_mem_cons.mpr ⟨?_, ih hrest hnodup ?_⟩
      · rw [under_concat_of_ne (Ne.symm hne)]
        exact hfirst
      · intro hmem
        exact hnew (List.not_mem_cons_of_ne_of_not_mem (Ne.symm hne) hmem)

/-- The groups are those of some results. -/
structure IsGrouping (hits : List Hit) (groups : List HitGroup) : Prop where
  /-- The labels are the trimmed groups of the results. -/
  mem_labels : ∀ label, label ∈ labels groups ↔ label ∈ trimmedGroups hits
  /-- The labels stand in the order of their first results. -/
  order : (labels groups).Pairwise fun l m => firstRank l hits < firstRank m hits
  holds : HoldsUnder hits groups

namespace IsGrouping

/-- Labels in the order of their first results differ. -/
theorem nodup (h : IsGrouping hits groups) : (labels groups).Nodup :=
  h.order.imp fun hlt heq => absurd (heq ▸ hlt) (Nat.lt_irrefl _)

/-- A result goes to the group with its label, or into a new last one. -/
theorem add (h : IsGrouping hits groups) (hit : Hit) :
    IsGrouping (hits ++ [hit]) (addToGroup hit groups) where
  mem_labels label := by
    rw [labels_addToGroup, trimmedGroups_concat, List.mem_append, ← h.mem_labels]
    split
    next hmem =>
      refine ⟨.inl, ?_⟩
      rintro (hold | hnew)
      · exact hold
      · rw [List.mem_singleton.mp hnew]
        exact hmem
    next => exact List.mem_append
  order := by
    have hold : (labels groups).Pairwise
        fun l m => firstRank l (hits ++ [hit]) < firstRank m (hits ++ [hit]) := by
      refine h.order.imp_of_mem ?_
      intro l m hl hm hlt
      rwa [firstRank_concat_of_mem ((h.mem_labels l).mp hl),
        firstRank_concat_of_mem ((h.mem_labels m).mp hm)]
    rw [labels_addToGroup]
    split
    next => exact hold
    next hnew =>
      refine List.pairwise_append.mpr ⟨hold, List.pairwise_singleton _ _, ?_⟩
      intro l hl m hm
      obtain rfl := List.mem_singleton.mp hm
      have hl := (h.mem_labels l).mp hl
      rw [firstRank_concat_of_mem hl, firstRank_concat_self fun hmem => hnew ((h.mem_labels _).mpr hmem)]
      exact firstRank_lt hl
  holds := h.holds.add h.nodup fun hnew =>
    under_eq_nil fun hmem => hnew ((h.mem_labels _).mpr hmem)

end IsGrouping

/-- The groups of a list of results are those of its results. -/
theorem isGrouping_groupHits (hits : List Hit) : IsGrouping hits (groupHits hits) := by
  induction hits using List.reverseRecOn with
  | nil => exact ⟨fun _ => Iff.rfl, .nil, nofun⟩
  | append_singleton hits hit ih =>
    rw [groupHits_concat]
    exact ih.add hit

/-! ### Rankings -/

/-- The groups of a ranking share out its results. -/
structure Ranking.SharesOut (r : Ranking) : Prop where
  /-- Labels are trimmed. -/
  trimmed : ∀ group ∈ r.groups, Text.trimmed group.label = group.label
  /-- The label of a group is what trimming leaves of the group that each of its results names. -/
  label : ∀ group ∈ r.groups, ∀ hit ∈ group.hits,
    Text.IsTrimOf group.label.toList hit.group.toList
  /-- They are different. -/
  nodup : (r.groups.map (·.label)).Nodup
  /-- No group is empty. -/
  nonempty : ∀ group ∈ r.groups, group.hits ≠ []
  /-- A group holds the ranked results that name it, up to blanks at both ends, in rank order. -/
  hits : ∀ group ∈ r.groups,
    group.hits = r.ranked.filter fun hit => Text.trimmed hit.group == group.label
  /-- Its first result is the one at the first rank of its label. -/
  first : ∀ group ∈ r.groups, group.hits.head? = r.ranked[firstRank group.label r.ranked]?
  /-- The groups stand in the order of these ranks. -/
  order : r.groups.Pairwise fun g g' => firstRank g.label r.ranked < firstRank g'.label r.ranked
  /-- What is shown are the ranked results, each as often. -/
  displayed : r.displayed.Perm r.ranked
  /-- What is shown first is the best. -/
  best : r.displayed.head? = r.best?

/-- A grouped ranking shares its results out: what is said of groups in general holds for the ranked
results and the groups that are made of them. -/
theorem Ranking.IsGrouped.sharesOut {r : Ranking} (h : r.IsGrouped) : r.SharesOut := by
  have hgrouping : IsGrouping r.ranked r.groups := by
    rw [h]
    exact isGrouping_groupHits r.ranked
  refine
    { trimmed := ?trimmed
      label := ?label
      nodup := hgrouping.nodup
      nonempty := ?nonempty
      hits := hgrouping.holds
      first := ?first
      order := ?order
      displayed := h.displayed_perm
      best := h.displayed_head? }
  case trimmed =>
    intro group hgroup
    obtain ⟨hit, -, hlabel⟩ :=
      List.mem_map.mp ((hgrouping.mem_labels _).mp (List.mem_map_of_mem hgroup))
    rw [← hlabel]
    exact Text.trimmed_trimmed hit.group
  case label =>
    intro group hgroup hit hhit
    rw [hgrouping.holds group hgroup] at hhit
    obtain ⟨-, hlabel⟩ := mem_under.mp hhit
    rw [← hlabel, Text.toList_trimmed]
    exact Text.isTrimOf_trim hit.group.toList
  case nonempty =>
    rw [h]
    exact groupHits_hits_ne_nil r.ranked
  case first =>
    intro group hgroup
    rw [hgrouping.holds group hgroup]
    exact head?_under group.label r.ranked
  case order =>
    have horder := hgrouping.order
    rwa [labels, List.pairwise_map] at horder

/-- **Grouping loses and reorders nothing.** The groups of a search have different trimmed labels, and
each of them holds the ranked results with its label, in rank order and at least one. The groups
stand in the order of their first results; so what is shown are the ranked results, the best one
first. -/
theorem ofStreams_sharesOut (streams : List (List Hit)) (limit : Nat) :
    (Ranking.ofStreams streams limit).SharesOut :=
  (Ranking.isGrouped_ofStreams streams limit).sharesOut

end Launcher
