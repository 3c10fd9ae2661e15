import Launcher.Log
import Launcher.Proofs.Decimal.Fixed
import Launcher.Proofs.Files

namespace Launcher.Log

/-!
# The archives that are removed

When the log is closed it becomes an archive whose name carries a stamp of the time. Only so many
archives are kept. Those beyond the limit are chosen by their names alone, in the order of texts;
that they are the oldest follows from all stamps having equally many digits.

* `HasStamp` — the name of an archive with a stamp of so many digits. Names with equally many digits
  are in the order of their stamps (`HasStamp.lt`): they begin alike, so the digits decide.
* `lt_of_mem_surplus` — the names beyond the limit come before those that are left.
* `countP_kept` — as many archives are left as the limit allows.
* `leftOf` — the entries that are left of a folder; `entriesAt?_prune`, `at?_prune` say that
  removing the names one by one comes to that, and changes nothing elsewhere.
* `HoldsLogs` — what is assumed of the folder: different names, archives that can be removed, and
  stamps of one width.
* `prune_removes_oldest` — so the oldest archives are removed from a folder, and nothing else.
-/

variable {name name' : String} {names : List String} {width stamp stamp' : Nat}

/-! ### Stamps -/

/-- The name of the archive with a stamp, written in so many digits. -/
def HasStamp (width : Nat) (name : String) (stamp : Nat) : Prop :=
  ∃ ds : List Char, name = archiveStart ++ String.ofList ds ++ archiveEnd ∧ ds.length = width ∧
    (∀ c ∈ ds, Text.isDigit c = true) ∧ Decimal.ofDigits ds = stamp

/-- The archive of a time has its stamp. -/
theorem hasStamp_archiveName (time : Nat) :
    HasStamp (Decimal.digits time).length (archiveName time) time :=
  ⟨_, rfl, rfl, Decimal.isDigit_of_mem_digits time, Decimal.ofDigits_digits time⟩

/-- A name with a stamp is that of an archive. -/
theorem HasStamp.isArchive (h : HasStamp width name stamp) : isArchive name = true := by
  obtain ⟨ds, rfl, -⟩ := h
  unfold Log.isArchive
  rw [Bool.and_eq_true, List.isPrefixOf_iff_prefix, List.isSuffixOf_iff_suffix]
  simp only [String.toList_append]
  exact ⟨(List.prefix_append _ _).trans (List.prefix_append _ _), List.suffix_append _ _⟩

/-- Of texts that begin alike, what follows decides. -/
theorem lt_of_append_lt {front s t : List Char} (h : front ++ s < front ++ t) : s < t := by
  induction front with
  | nil => exact h
  | cons c front ih =>
    obtain hlt | ⟨-, hlt⟩ := List.cons_lt_cons_iff.mp h
    · exact absurd hlt (Char.lt_irrefl c)
    · exact ih hlt

/-- **Names with stamps of one width are in the order of their stamps.** -/
theorem HasStamp.lt (h : HasStamp width name stamp) (h' : HasStamp width name' stamp')
    (hlt : name < name') : stamp < stamp' := by
  obtain ⟨ds, rfl, hlength, hds, rfl⟩ := h
  obtain ⟨ds', rfl, hlength', hds', rfl⟩ := h'
  have hne : ds ≠ ds' := by
    rintro rfl
    exact String.lt_irrefl _ hlt
  -- Both names begin alike, so what they have behind that decides.
  have hdigits : ds ++ archiveEnd.toList < ds' ++ archiveEnd.toList := by
    rw [String.lt_iff_toList_lt] at hlt
    simp only [String.toList_append, String.toList_ofList, List.append_assoc] at hlt
    exact lt_of_append_lt hlt
  exact Decimal.ofDigits_lt_of_append_lt hds hds' (hlength.trans hlength'.symm) hne hdigits

/-! ### The archives of a folder -/

/-- The archives in the order of their names. -/
def ordered (names : List String) : List String :=
  (names.filter isArchive).mergeSort (fun a b => a ≤ b)

/-- Sorting drops no archive and adds none. -/
theorem ordered_perm (names : List String) : (ordered names).Perm (names.filter isArchive) :=
  List.mergeSort_perm _ _

theorem length_ordered (names : List String) : (ordered names).length = names.countP isArchive := by
  rw [(ordered_perm names).length_eq, List.countP_eq_length_filter]

/-- They are the archives among the names. -/
theorem mem_ordered : name ∈ ordered names ↔ name ∈ names ∧ isArchive name = true := by
  rw [(ordered_perm names).mem_iff, List.mem_filter]

/-- They are sorted by their names. -/
theorem pairwise_ordered (names : List String) : (ordered names).Pairwise (· ≤ ·) := by
  have htrans (a b c : String) (hab : decide (a ≤ b) = true) (hbc : decide (b ≤ c) = true) :
      decide (a ≤ c) = true := by
    rw [decide_eq_true_eq] at hab hbc ⊢
    exact String.le_trans hab hbc
  have htotal (a b : String) : (decide (a ≤ b) || decide (b ≤ a)) = true := by
    rw [Bool.or_eq_true, decide_eq_true_eq, decide_eq_true_eq]
    exact String.le_total a b
  exact (List.pairwise_mergeSort htrans htotal (names.filter isArchive)).imp of_decide_eq_true

/-- The archives beyond the limit are the first ones. -/
theorem surplus_eq (names : List String) :
    surplus names = (ordered names).take (names.countP isArchive - archiveLimit) := by
  rw [← length_ordered]
  rfl

/-- Only archives are removed. -/
theorem of_mem_surplus (h : name ∈ surplus names) : name ∈ names ∧ isArchive name = true := by
  rw [surplus_eq] at h
  exact mem_ordered.mp (List.mem_of_mem_take h)

/-- Up to the limit none is. -/
theorem surplus_of_le (h : names.countP isArchive ≤ archiveLimit) : surplus names = [] := by
  rw [surplus_eq, Nat.sub_eq_zero_of_le h, List.take_zero]

/-- **The archives beyond the limit come before those that are left.** -/
theorem lt_of_mem_surplus (h : name ∈ surplus names) (h' : name' ∈ names)
    (harchive : isArchive name' = true) (hleft : name' ∉ surplus names) : name < name' := by
  have hsorted := pairwise_ordered names
  have hmem := mem_ordered.mpr ⟨h', harchive⟩
  have hne : name ≠ name' := by
    rintro rfl
    exact hleft h
  rw [surplus_eq] at h hleft
  rw [← List.take_append_drop (names.countP isArchive - archiveLimit) (ordered names)]
    at hsorted hmem
  -- A name that is left stands behind the part that is cut off.
  have hbehind := (List.mem_append.mp hmem).resolve_left hleft
  have hle := (List.pairwise_append.mp hsorted).2.2 name h name' hbehind
  exact String.not_le.mp fun hge => hne (String.le_antisymm hle hge)

/-- Where nothing occurs twice, a list less the names at its beginning is what follows them. -/
theorem filter_not_mem_take {l : List String} (h : l.Nodup) (n : Nat) :
    l.filter (fun name => !(l.take n).contains name) = l.drop n := by
  have hsplit := List.take_append_drop n l
  have hdisjoint := (List.nodup_append.mp (hsplit.symm ▸ h)).2.2
  have htaken : (l.take n).filter (fun name => !(l.take n).contains name) = [] :=
    List.filter_eq_nil_iff.mpr fun name hname => by simpa using hname
  have hdropped : (l.drop n).filter (fun name => !(l.take n).contains name) = l.drop n := by
    refine List.filter_eq_self.mpr fun name hname => ?_
    have hnot : name ∉ l.take n := fun htake => hdisjoint name htake name hname rfl
    simpa using hnot
  calc l.filter (fun name => !(l.take n).contains name)
      = (l.take n ++ l.drop n).filter (fun name => !(l.take n).contains name) := by rw [hsplit]
    _ = l.drop n := by rw [List.filter_append, htaken, hdropped, List.nil_append]

/-- **As many archives are left as the limit allows.** -/
theorem countP_kept (h : names.Nodup) :
    (kept names).countP isArchive = min archiveLimit (names.countP isArchive) := by
  have hnodup : (ordered names).Nodup := (ordered_perm names).nodup_iff.mpr (h.filter _)
  have hperm := (ordered_perm names).filter fun name => !(surplus names).contains name
  have hleft := filter_not_mem_take hnodup (names.countP isArchive - archiveLimit)
  rw [← surplus_eq] at hleft
  rw [kept, List.countP_eq_length_filter, List.filter_comm, ← hperm.length_eq, hleft,
    List.length_drop, length_ordered]
  omega

/-! ### Folders with archives -/

/-- The entries that are left of a folder. -/
def leftOf (entries : FileEntries) : FileEntries :=
  entries.filter fun e => !(surplus (entries.map (·.1))).contains e.1

/-- The names that are left are those that are kept. -/
theorem map_leftOf (entries : FileEntries) :
    (leftOf entries).map (·.1) = kept (entries.map (·.1)) := by
  rw [kept, List.filter_map]
  rfl

/-- An entry is left if its name is not among those beyond the limit. -/
theorem mem_leftOf {e : String × FileNode} {entries : FileEntries} :
    e ∈ leftOf entries ↔ e ∈ entries ∧ e.1 ∉ surplus (entries.map (·.1)) := by
  simp [leftOf, List.mem_filter]

variable {fs : Files} {place : Place} {entries : FileEntries}

/-- The names beyond the limit are removed one by one. -/
theorem prune_eq (h : fs.entriesAt? place = some entries) : prune fs place =
    (surplus (entries.map (·.1))).foldl (fun fs name => fs.remove place name) fs := by
  rw [prune, h]
  rfl

/-- A folder of logs: its entries have different names, and its archives are files with stamps of
one width. -/
structure HoldsLogs (width : Nat) (entries : FileEntries) : Prop where
  distinct : (entries.map (·.1)).Nodup
  removable : ∀ e ∈ entries, isArchive e.1 = true → ∀ inner, e.2 ≠ .folder inner
  stamped : ∀ e ∈ entries, isArchive e.1 = true → ∃ stamp, HasStamp width e.1 stamp

/-- What they leave of the folder. -/
theorem entriesAt?_prune (h : fs.entriesAt? place = some entries)
    (hlogs : HoldsLogs width entries) :
    (prune fs place).entriesAt? place = some (leftOf entries) := by
  rw [prune_eq h]
  exact Files.entriesAt?_removeAll h fun e he hmem =>
    hlogs.removable e he (of_mem_surplus hmem).2

/-- Places elsewhere, and those below other entries, stay as they are. -/
theorem at?_prune (h : fs.entriesAt? place = some entries) {other : Place}
    (hother : ¬other <+: place)
    (hnames : ∀ name, isArchive name = true → ¬place ++ [name] <+: other) :
    (prune fs place).at? other = fs.at? other := by
  rw [prune_eq h]
  exact Files.at?_removeAll h hother fun name hname => hnames name (of_mem_surplus hname).2

/-- **Only the oldest archives are removed.** Of a folder of logs as many archives are left as the
limit allows. Each that is removed has a smaller stamp than each that is left; none is removed up to
the limit; and whatever is no archive of the folder, the log among it, stays. -/
theorem prune_removes_oldest (h : fs.entriesAt? place = some entries)
    (hlogs : HoldsLogs width entries) :
    ∃ left, (prune fs place).entriesAt? place = some left ∧ left.Sublist entries ∧
      left.countP (isArchive ·.1) = min archiveLimit (entries.countP (isArchive ·.1)) ∧
      (∀ removed ∈ entries, removed ∉ left → isArchive removed.1 = true ∧
        ∀ archive ∈ left, isArchive archive.1 = true → ∃ stamp stamp',
          HasStamp width removed.1 stamp ∧ HasStamp width archive.1 stamp' ∧ stamp < stamp') ∧
      (entries.countP (isArchive ·.1) ≤ archiveLimit → prune fs place = fs) ∧
      (∀ other, ¬other <+: place →
        (∀ name, isArchive name = true → ¬place ++ [name] <+: other) →
        (prune fs place).at? other = fs.at? other) ∧
      (prune fs place).at? (place ++ [fileName]) = fs.at? (place ++ [fileName]) := by
  have hnames (l : FileEntries) : l.countP (isArchive ·.1) = (l.map (·.1)).countP isArchive := by
    rw [List.countP_map]
    rfl
  refine ⟨leftOf entries, entriesAt?_prune h hlogs, List.filter_sublist, ?_, ?_, ?_, ?_, ?_⟩
  · -- As many archives are left as the limit allows.
    rw [hnames, hnames, map_leftOf, countP_kept hlogs.distinct]
  · -- What is gone was an archive, with a smaller stamp than each that is left.
    intro removed hremoved hnot
    have hsurplus : removed.1 ∈ surplus (entries.map (·.1)) := by
      by_contra hkeep
      exact hnot (mem_leftOf.mpr ⟨hremoved, hkeep⟩)
    have hisArchive := (of_mem_surplus hsurplus).2
    refine ⟨hisArchive, fun archive hleft harchive => ?_⟩
    obtain ⟨hmem, hkeep⟩ := mem_leftOf.mp hleft
    obtain ⟨stamp, hstamp⟩ := hlogs.stamped removed hremoved hisArchive
    obtain ⟨stamp', hstamp'⟩ := hlogs.stamped archive hmem harchive
    have hlt := lt_of_mem_surplus hsurplus (List.mem_map_of_mem hmem) harchive hkeep
    exact ⟨stamp, stamp', hstamp, hstamp', hstamp.lt hstamp' hlt⟩
  · -- Up to the limit nothing is removed.
    intro hle
    rw [hnames] at hle
    rw [prune_eq h, surplus_of_le hle, List.foldl_nil]
  · exact fun other hother hnames => at?_prune h hother hnames
  · -- The log lies in the folder, and its name is not that of an archive.
    refine at?_prune h (fun hbelow => ?_) fun name hname hbelow => ?_
    · have hlength := hbelow.length_le
      rw [List.length_append, List.length_singleton] at hlength
      omega
    · rw [List.prefix_append_right_inj, List.cons_prefix_cons] at hbelow
      rw [hbelow.1] at hname
      exact absurd hname (by decide)

/-- A folder with the log and six archives, the oldest of them in the middle. -/
theorem prune_removes_oldest_six :
    let times := [1700000003, 1700000006, 1700000001, 1700000005, 1700000002, 1700000004]
    let entries : FileEntries :=
      (fileName, .text "running") :: times.map fun time => (archiveName time, .text "")
    let fs : Files := { entries := [("logs", .folder entries)] }
    fs.entriesAt? ["logs"] = some entries ∧ HoldsLogs 10 entries ∧
      entries.countP (isArchive ·.1) = 6 ∧
      (∃ left, (prune fs ["logs"]).entriesAt? ["logs"] = some left ∧
        left.countP (isArchive ·.1) = 5) ∧
      (prune fs ["logs"]).at? ["logs", fileName] = some (.text "running") := by
  intro times entries fs
  have hplace : fs.entriesAt? ["logs"] = some entries := rfl
  have hwidth : ∀ time ∈ times, (Decimal.digits time).length = 10 := by decide +kernel
  have hcount : entries.countP (isArchive ·.1) = 6 := by decide +kernel
  have hlog : fs.at? ["logs", fileName] = some (.text "running") := rfl
  have hlogs : HoldsLogs 10 entries := by
    refine ⟨by decide +kernel, ?_, ?_⟩
    · refine List.forall_mem_cons.mpr ⟨fun _ _ => nofun, List.forall_mem_map.mpr ?_⟩
      exact fun _ _ _ _ => nofun
    · refine List.forall_mem_cons.mpr ⟨fun h => absurd h (by decide), List.forall_mem_map.mpr ?_⟩
      exact fun time htime _ => ⟨time, hwidth time htime ▸ hasStamp_archiveName time⟩
  obtain ⟨left, hleft, -, hlimit, -, -, -, hstays⟩ := prune_removes_oldest hplace hlogs
  rw [hcount] at hlimit
  exact ⟨hplace, hlogs, hcount, ⟨left, hleft, hlimit⟩, hstays.trans hlog⟩

end Launcher.Log
