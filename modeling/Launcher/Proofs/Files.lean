import Launcher.Files

namespace Launcher.Files

/-!
# Files that were written

Files are a tree of folders, and paths lead through it part by part. To say that something lies at a
path after a write, two things are needed: what the write does in the one folder that it is about,
and that the path still leads to that folder. The second holds because nothing that a path goes
through is ever taken away by a write.

* `find?_change` — what a change does to the folder that it is about.
* `Grows` — every folder is still there, with every name that it had; `grows_change` lifts this from
  the changed folder to the whole tree, and `step?_of_grows` says that paths lead where they led.
* `write?_cases` — what writing comes to.
* `node?_write?` — what was written to a path lies there.
* `find?_change_of_apart`, `find?_change_of_keeps` — where a change is not seen.
* `entriesAt?_removeAll`, `at?_removeAll` — what is left when files of a folder are removed.

The inductions are on the place that is changed, with the tree left general.
-/

variable {entries inner : FileEntries} {name : String} {node : FileNode}

/-! ### Entries -/

/-- What was put under a name lies there. -/
theorem lookup_putEntry_self : (putEntry name node entries).lookup name = some node := by
  induction entries with
  | nil => simp [putEntry]
  | cons entry entries ih =>
    obtain ⟨n, m⟩ := entry
    unfold putEntry
    by_cases h : n = name
    · rw [if_pos h, h, List.lookup_cons_self]
    · have hne : (name == n) = false := by simpa using Ne.symm h
      rw [if_neg h, List.lookup_cons, hne]
      exact ih

/-- Other names are as they were. -/
theorem lookup_putEntry_of_ne {n : String} (h : n ≠ name) :
    (putEntry name node entries).lookup n = entries.lookup n := by
  induction entries with
  | nil =>
    have hne : (n == name) = false := by simpa using h
    simp [putEntry, List.lookup_cons, hne]
  | cons entry entries ih =>
    obtain ⟨m, other⟩ := entry
    unfold putEntry
    -- The entry that is replaced is not the one that is asked for.
    by_cases hm : m = name
    · have hne : (n == m) = false := by simpa [hm] using h
      rw [if_pos hm, List.lookup_cons, List.lookup_cons, hne]
    · rw [if_neg hm, List.lookup_cons, List.lookup_cons, ih]

/-! ### Places -/

/-- A place below a folder is looked up in that folder. -/
theorem find?_folder (h : entries.lookup name = some (.folder inner)) (place : Place) :
    find? (name :: place) entries = find? place inner := by
  rw [find?, h]

/-- A folder lies in folders. -/
theorem exists_of_find?_folder {place : Place}
    (h : find? (name :: place) entries = some (.folder inner)) :
    ∃ outer, entries.lookup name = some (.folder outer) ∧
      find? place outer = some (.folder inner) := by
  rw [find?] at h
  split at h
  next outer hname => exact ⟨outer, hname, h⟩
  next found hfound hname =>
    split at h
    next => exact absurd (Option.some.inj h) (hfound inner)
    next => cases h
  next => cases h

/-- So it is along any number of folders. -/
theorem find?_below {place : Place} (h : find? place entries = some (.folder inner))
    (rest : Place) : find? (place ++ rest) entries = find? rest inner := by
  induction place generalizing entries with
  | nil =>
    cases h
    rfl
  | cons n place ih =>
    obtain ⟨outer, hn, hplace⟩ := exists_of_find?_folder h
    rw [List.cons_append, find?_folder hn]
    exact ih hplace

/-- A place of one part is an entry. -/
theorem find?_singleton : find? [name] entries = entries.lookup name := by
  rw [find?]
  split
  next hname => rw [hname, find?]
  next hname => exact hname.symm
  next hname => exact hname.symm

/-- An entry of a folder is looked up there. -/
theorem find?_append {place : Place} (h : find? place entries = some (.folder inner)) :
    find? (place ++ [name]) entries = inner.lookup name := by
  rw [find?_below h, find?_singleton]

theorem find?_congr {entries' : FileEntries} (h : entries.lookup name = entries'.lookup name)
    (rest : Place) : find? (name :: rest) entries = find? (name :: rest) entries' := by
  rw [find?, find?, h]

/-- A change below a folder puts a changed folder into its place. -/
theorem change_folder (f : FileEntries → FileEntries) (place : Place)
    (h : entries.lookup name = some (.folder inner)) :
    change f (name :: place) entries = putEntry name (.folder (change f place inner)) entries := by
  rw [change, h]

/-- A change puts a folder into the place of the one that it is about. -/
theorem find?_change {place : Place} (f : FileEntries → FileEntries)
    (h : find? place entries = some (.folder inner)) :
    find? place (change f place entries) = some (.folder (f inner)) := by
  induction place generalizing entries with
  | nil =>
    cases h
    rfl
  | cons n place ih =>
    obtain ⟨outer, hn, hplace⟩ := exists_of_find?_folder h
    rw [change_folder f place hn, find?_folder lookup_putEntry_self]
    exact ih hplace

/-! ### Growing -/

/-- Every folder is still there, with every name that it had. -/
def Grows (entries entries' : FileEntries) : Prop :=
  ∀ place inner, find? place entries = some (.folder inner) →
    ∃ inner', find? place entries' = some (.folder inner') ∧
      ∀ n, (inner.lookup n).isSome → (inner'.lookup n).isSome

/-- No name is lost when something is put under one. -/
theorem isSome_lookup_putEntry {n : String} (h : (entries.lookup n).isSome) :
    ((putEntry name node entries).lookup n).isSome := by
  by_cases hn : n = name
  · rw [hn, lookup_putEntry_self]
    rfl
  · rwa [lookup_putEntry_of_ne hn]

/-- Putting something where there is no folder takes no folder away. -/
theorem grows_putEntry (h : ∀ inner, entries.lookup name ≠ some (.folder inner)) :
    Grows entries (putEntry name node entries) := by
  intro place inner hplace
  cases place with
  | nil =>
    cases hplace
    exact ⟨_, rfl, fun n => isSome_lookup_putEntry⟩
  | cons n place =>
    obtain ⟨outer, hn, hplace⟩ := exists_of_find?_folder hplace
    have hne : n ≠ name := by
      rintro rfl
      exact h outer hn
    refine ⟨inner, ?_, fun _ => id⟩
    rw [find?_folder ((lookup_putEntry_of_ne hne).trans hn)]
    exact hplace

/-- A change under which the folder that it is about grows lets everything grow. -/
theorem grows_change {place : Place} {f : FileEntries → FileEntries}
    (h : find? place entries = some (.folder inner)) (hf : Grows inner (f inner)) :
    Grows entries (change f place entries) := by
  induction place generalizing entries with
  | nil =>
    cases h
    exact hf
  | cons n place ih =>
    obtain ⟨outer, hn, hplace⟩ := exists_of_find?_folder h
    rw [change_folder f place hn]
    intro other found hother
    cases other with
    | nil =>
      cases hother
      exact ⟨_, rfl, fun m => isSome_lookup_putEntry⟩
    | cons m other =>
      obtain ⟨outer', hm, hother⟩ := exists_of_find?_folder hother
      -- Only below the name on the way to the change is there anything to prove.
      by_cases hmn : m = n
      · subst hmn
        cases hm.symm.trans hn
        obtain ⟨found', hfound, hkept⟩ := ih hplace other found hother
        exact ⟨found', by rwa [find?_folder lookup_putEntry_self], hkept⟩
      · refine ⟨found, ?_, fun _ => id⟩
        rw [find?_folder ((lookup_putEntry_of_ne hmn).trans hm)]
        exact hother

/-! ### Writing -/

variable {fs fs' : Files}

/-- The entries at a place are those of a folder that is found. -/
theorem entriesAt?_eq_some {place : Place} :
    fs.entriesAt? place = some inner ↔ find? place fs.entries = some (.folder inner) := by
  unfold entriesAt? at?
  split
  next found heq => simp [heq]
  next heq =>
    constructor
    · rintro ⟨⟩
    · intro h
      exact absurd h (heq inner)

/-- A part of a path leads where it led. -/
theorem step?_of_grows (h : Grows fs.entries fs'.entries) {place next : Place} {part : String}
    (hstep : fs.step? place part = some next) : fs'.step? place part = some next := by
  unfold step? at hstep ⊢
  cases hplace : fs.entriesAt? place with
  | none =>
    rw [hplace] at hstep
    cases hstep
  | some inner =>
    obtain ⟨inner', hinner', hkept⟩ := h place inner (entriesAt?_eq_some.mp hplace)
    rw [hplace, Option.bind_eq_bind, Option.bind_some] at hstep
    rw [entriesAt?_eq_some.mpr hinner', Option.bind_eq_bind, Option.bind_some]
    split at hstep
    next hhere => rwa [if_pos hhere]
    next hhere =>
      rw [if_neg hhere]
      split at hstep
      next hup => rwa [if_pos hup]
      next hup =>
        rw [if_neg hup]
        obtain ⟨found, hfound, rfl⟩ := Option.map_eq_some_iff.mp hstep
        have hsome := hkept part (by rw [hfound]; rfl)
        obtain ⟨found', hfound'⟩ := Option.isSome_iff_exists.mp hsome
        rw [hfound']
        rfl

/-- So does a whole path. -/
theorem foldlM_step?_of_grows (h : Grows fs.entries fs'.entries) {parts : List String}
    {place last : Place} (hsteps : parts.foldlM (step? fs) place = some last) :
    parts.foldlM (step? fs') place = some last := by
  induction parts generalizing place with
  | nil => exact hsteps
  | cons part parts ih =>
    rw [List.foldlM_cons] at hsteps ⊢
    obtain ⟨next, hnext, hrest⟩ := Option.bind_eq_some_iff.mp hsteps
    rw [step?_of_grows h hnext]
    exact ih hrest

/-- What writing comes to: the last part of the path is put into the folder that the others lead to,
where no folder has its name. -/
theorem write?_cases {path : String} (h : fs.write? path node = some fs') :
    ∃ name place inner, parts path = (parts path).dropLast ++ [name] ∧
      path.contains '\x00' = false ∧ name ∉ ["", ".", ".."] ∧
      (parts path).dropLast.foldlM (step? fs) (fs.start path) = some place ∧
      fs.entriesAt? place = some inner ∧ (∀ x, inner.lookup name ≠ some (.folder x)) ∧
      fs' = fs.put place name node := by
  unfold write? at h
  obtain ⟨name, hname, h⟩ := Option.bind_eq_some_iff.mp h
  split at h
  next => cases h
  next hplain =>
    obtain ⟨place, hplace, h⟩ := Option.bind_eq_some_iff.mp h
    obtain ⟨inner, hinner, h⟩ := Option.bind_eq_some_iff.mp h
    rw [Bool.not_eq_true, Bool.or_eq_false_iff, decide_eq_false_iff_not] at hplain
    have hparts : parts path = (parts path).dropLast ++ [name] := by
      obtain ⟨front, hfront⟩ := List.getLast?_eq_some_iff.mp hname
      rw [hfront, List.dropLast_concat]
    split at h
    next => cases h
    next hfolder =>
      exact ⟨name, place, inner, hparts, hplain.1, hplain.2, hplace, hinner, hfolder,
        (Option.some.inj h).symm⟩

/-- **What was written to a path** lies there. -/
theorem node?_write? {path : String} (h : fs.write? path node = some fs') :
    fs'.node? path = some node := by
  obtain ⟨name, place, inner, hparts, hnul, hname, hplace, hinner, hfolder, rfl⟩ := write?_cases h
  have hentries := entriesAt?_eq_some.mp hinner
  have hgrows : Grows fs.entries (fs.put place name node).entries :=
    grows_change hentries (grows_putEntry hfolder)
  have hput := find?_change (putEntry name node) hentries
  have hlookup : (putEntry name node inner).lookup name = some node := lookup_putEntry_self
  -- The path is not empty, for its last part would be an empty name.
  have hempty : path.isEmpty = false := by
    rw [Bool.eq_false_iff]
    intro hempty
    obtain rfl : path = "" := by simpa using hempty
    have hnone : parts "" = [""] := by
      simp [parts, Text.splitAtEach, Text.splitOn, Text.cutAt?, Text.stripStart?]
    rw [hnone] at hparts
    obtain rfl : "" = name := by simpa using hparts
    exact hname List.mem_cons_self
  -- The parts before the last lead where they led, and the last one is there now.
  have hlast : (fs.put place name node).step? place name = some (place ++ [name]) := by
    simp only [List.mem_cons, List.not_mem_nil, or_false, not_or] at hname
    unfold step?
    rw [entriesAt?_eq_some.mpr hput, Option.bind_eq_bind, Option.bind_some, hlookup,
      if_neg (by simp [hname]), if_neg hname.2.2]
    rfl
  have hwhole : (fs.put place name node).place? path = some (place ++ [name]) := by
    have hfront : (parts path).dropLast.foldlM (step? (fs.put place name node)) (fs.start path) =
        some place := foldlM_step?_of_grows hgrows hplace
    have hstart : (fs.put place name node).start path = fs.start path := rfl
    unfold place?
    rw [hempty, hnul, if_neg (by decide), hparts, List.foldlM_append, hstart, hfront]
    simp only [Option.bind_eq_bind, Option.bind_some, List.foldlM_cons, List.foldlM_nil, hlast]
    rfl
  unfold node?
  rw [hwhole, Option.bind_some]
  exact (find?_append hput).trans hlookup

/-! ### Removing -/

/-- A change is not seen where neither the folder that it is about lies nor anything in it. -/
theorem find?_change_of_apart {place other : Place} (f : FileEntries → FileEntries)
    (h : ¬other <+: place) (h' : ¬place <+: other) :
    find? other (change f place entries) = find? other entries := by
  induction place generalizing entries other with
  | nil => exact absurd List.nil_prefix h'
  | cons n place ih =>
    cases other with
    | nil => exact absurd List.nil_prefix h
    | cons m other =>
      unfold change
      split
      next outer hn =>
        by_cases hmn : m = n
        · subst hmn
          rw [List.prefix_cons_inj] at h h'
          rw [find?_folder lookup_putEntry_self, find?_folder hn]
          exact ih h h'
        · exact find?_congr (lookup_putEntry_of_ne hmn) other
      next => rfl

/-- A change is seen only through the entries that it does not leave as they are. -/
theorem find?_change_of_keeps {place other : Place} {f : FileEntries → FileEntries}
    (hplace : find? place entries = some (.folder inner)) (hother : ¬other <+: place)
    (hkeeps : ∀ n, place ++ [n] <+: other → (f inner).lookup n = inner.lookup n) :
    find? other (change f place entries) = find? other entries := by
  by_cases hbelow : place <+: other
  · obtain ⟨rest, rfl⟩ := hbelow
    rw [find?_below (find?_change f hplace), find?_below hplace]
    cases rest with
    | nil =>
      rw [List.append_nil] at hother
      exact absurd (List.prefix_refl place) hother
    | cons n rest => exact find?_congr (hkeeps n ⟨rest, by simp⟩) rest
  · exact find?_change_of_apart f hother hbelow

/-- Entries that are all kept under a name are found there as before. -/
theorem lookup_filter {keep : String × FileNode → Bool}
    (h : ∀ e ∈ entries, e.1 = name → keep e = true) :
    (entries.filter keep).lookup name = entries.lookup name := by
  induction entries with
  | nil => rfl
  | cons e entries ih =>
    obtain ⟨n, node⟩ := e
    rw [List.forall_mem_cons] at h
    have hrest := ih h.2
    by_cases hname : n = name
    · rw [List.filter_cons_of_pos (h.1 hname), hname, List.lookup_cons_self, List.lookup_cons_self]
    · have hne : (name == n) = false := by simpa using Ne.symm hname
      rw [List.filter_cons, List.lookup_cons, hne]
      split
      · rw [List.lookup_cons, hne]
        exact hrest
      · exact hrest

/-- An entry is a file of some name. -/
def isFileOf (name : String) (e : String × FileNode) : Bool :=
  e.1 == name && !(e.2 matches .folder _)

/-- An entry of another name is no file of this one. -/
theorem isFileOf_of_ne {e : String × FileNode} (h : e.1 ≠ name) : isFileOf name e = false := by
  rw [isFileOf, beq_eq_false_iff_ne.mpr h, Bool.false_and]

/-- What is no folder is a file of its name. -/
theorem isFileOf_self {e : String × FileNode} (h : ∀ x, e.2 ≠ .folder x) :
    isFileOf e.1 e = true := by
  unfold isFileOf
  split
  next x hx => exact absurd hx (h x)
  next => simp

theorem remove_entries (fs : Files) (place : Place) (name : String) :
    (fs.remove place name).entries = change (·.filter (!isFileOf name ·)) place fs.entries := rfl

section

variable {place other : Place} {names : List String} (h : fs.entriesAt? place = some inner)
include h

/-- Removing a file leaves the other entries of the folder. -/
theorem entriesAt?_remove :
    (fs.remove place name).entriesAt? place = some (inner.filter (!isFileOf name ·)) := by
  rw [entriesAt?_eq_some, remove_entries]
  exact find?_change _ (entriesAt?_eq_some.mp h)

/-- Removing a file is not seen elsewhere. -/
theorem at?_remove (hother : ¬other <+: place) (hname : ¬place ++ [name] <+: other) :
    (fs.remove place name).at? other = fs.at? other := by
  unfold at?
  rw [remove_entries]
  refine find?_change_of_keeps (entriesAt?_eq_some.mp h) hother fun n hn => ?_
  refine lookup_filter fun e _ he => ?_
  have hne : e.1 ≠ name := by
    rintro rfl
    exact hname (he ▸ hn)
  rw [isFileOf_of_ne hne]
  rfl

/-- **Removing files by their names** leaves the entries of other names. -/
theorem entriesAt?_removeAll (hfiles : ∀ e ∈ inner, e.1 ∈ names → ∀ x, e.2 ≠ .folder x) :
    (names.foldl (fun fs name => fs.remove place name) fs).entriesAt? place =
      some (inner.filter fun e => !names.contains e.1) := by
  induction names generalizing fs inner with
  | nil =>
    rw [List.foldl_nil, h]
    exact congrArg some (List.filter_eq_self.mpr fun _ _ => rfl).symm
  | cons name names ih =>
    have hentries : (fs.remove place name).entriesAt? place =
        some (inner.filter (!isFileOf name ·)) := entriesAt?_remove h
    have hrest := ih hentries fun e he hmem =>
      hfiles e (List.mem_filter.mp he).1 (List.mem_cons_of_mem name hmem)
    rw [List.foldl_cons, hrest, List.filter_filter]
    refine congrArg some (List.filter_congr fun e he => ?_)
    rw [List.contains_cons]
    by_cases hname : e.1 = name
    · subst hname
      rw [isFileOf_self (hfiles e he List.mem_cons_self), beq_self_eq_true]
      simp
    · rw [isFileOf_of_ne hname, beq_eq_false_iff_ne.mpr hname, Bool.false_or]
      simp

/-- **What lies elsewhere stays**, also in the folder itself under other names. -/
theorem at?_removeAll (hother : ¬other <+: place)
    (hnames : ∀ name ∈ names, ¬place ++ [name] <+: other) :
    (names.foldl (fun fs name => fs.remove place name) fs).at? other = fs.at? other := by
  induction names generalizing fs inner with
  | nil => rfl
  | cons name names ih =>
    rw [List.forall_mem_cons] at hnames
    rw [List.foldl_cons, ih (entriesAt?_remove h) hnames.2, at?_remove h hother hnames.1]

end

end Launcher.Files
