import Launcher.Proofs.Discovery.Walks
import Mathlib

namespace Launcher

/-!
# A bounded scan is the beginning of the full walk

A scan goes through its roots one after the other and stops when it has visited as many entries as
it may. The program counts while it walks; here the count is taken out of the walk.

* `Scan.visitEntries_eq_take`, `Scan.visitRoots_eq_take`, `Scan.visits_eq_take` — the limit counts
  the entries of all roots together: what is visited is a `take` of the full walks.
* `Scan.items_prefix` — a larger limit lets the scan go on.
* `Scan.visits_filter`, `Scan.visits_congr` — missing roots and hidden entries use up nothing.
* `IsListing` — a list has every visible entry below a folder, down to a depth, once.
* `Scan.IsBounded`, `Scan.visits_first` — a scan visits the first entries of the walks of its roots.

`IsListing` says what a full walk is without the walk: it has an entry if and only if names that are
not hidden lead to it, no more of them than the depth, and each folder stands before what it holds.
That the walk of the program is such a list is shown in `Launcher.Proofs.Discovery.Walks`; here only
the limit is added. The files have to be a tree, which means that no folder has two entries of one
name. The order of the entries of one folder is the order of the list that stands for it.
-/

namespace Scan

variable {fs : Files} {limit visited : Nat}

/-! ### Limits -/

/-- With fewer entries visited than may be, as many of these are visited as are still allowed. -/
theorem visitEntries_eq_take (h : visited < limit) (entries : List Visit) :
    visitEntries limit visited entries = entries.take (limit - visited) := by
  induction entries generalizing visited with
  | nil => rw [visitEntries, List.take_nil]
  | cons v entries ih =>
    rw [visitEntries]
    split
    -- One visit was left, so the first entry is the last one.
    next hlast =>
      have hone : limit - visited = 1 := by omega
      rw [hone, List.take_succ_cons, List.take_zero]
    next hmore =>
      have hsucc : limit - visited = limit - (visited + 1) + 1 := by omega
      rw [hsucc, List.take_succ_cons, ih (by omega)]

/-- The entries of one root that are visited count for the roots after it. -/
theorem visitRoots_eq_take (scan : Scan) (fs : Files) (visited : Nat) (roots : List String) :
    scan.visitRoots fs visited roots =
      (roots.flatMap (scan.walkRoot fs)).take (scan.limit - visited) := by
  induction roots generalizing visited with
  | nil => rw [visitRoots, List.flatMap_nil, List.take_nil]
  | cons root roots ih =>
    rw [visitRoots, List.flatMap_cons]
    split
    -- Nothing is left to visit, whatever the other roots have.
    next hreached => rw [Nat.sub_eq_zero_of_le hreached, List.take_zero]
    next hleft =>
      dsimp only
      rw [visitEntries_eq_take (Nat.lt_of_not_le hleft), ih, List.take_append, List.length_take]
      -- If the root has more entries than are left to visit, nothing is left either way.
      congr 2
      omega

/-- **The limit** counts the entries of all roots together. -/
theorem visits_eq_take (scan : Scan) (fs : Files) :
    scan.visits fs = (scan.roots.flatMap (scan.walkRoot fs)).take scan.limit :=
  visitRoots_eq_take scan fs 0 scan.roots

/-- A larger limit lets the scan go on. -/
theorem items_prefix (scan : Scan) (fs : Files) (h : scan.limit ≤ limit) :
    scan.items fs <+: { scan with limit }.items fs := by
  have hvisits : scan.visits fs <+: { scan with limit }.visits fs := by
    rw [visits_eq_take, visits_eq_take]
    exact List.take_prefix_take_left h
  exact hvisits.filterMap scan.kind.item?

/-! ### Roots -/

/-- There is nothing to walk through below a root that is no folder. -/
theorem walkRoot_of_none {root : String} (scan : Scan) (h : fs.folder? root = none) :
    scan.walkRoot fs root = [] := by
  rw [walkRoot, h]

/-- The entries of a root are one level below it, so one level less is left. -/
theorem walkRoot_of_some {root : String} {entries : FileEntries} (scan : Scan)
    (h : fs.folder? root = some entries) :
    scan.walkRoot fs root = walk (scan.depth - 1) root entries := by
  rw [walkRoot, h]

/-- Roots that are missing use up nothing. -/
theorem visits_filter (scan : Scan) (fs : Files) :
    { scan with roots := scan.roots.filter fun root => (fs.folder? root).isSome }.visits fs =
      scan.visits fs := by
  rw [visits_eq_take, visits_eq_take]
  refine congrArg (List.take scan.limit) ?_
  show (scan.roots.filter _).flatMap (scan.walkRoot fs) = scan.roots.flatMap (scan.walkRoot fs)
  induction scan.roots with
  | nil => rfl
  | cons root roots ih =>
    rw [List.filter_cons, List.flatMap_cons, ← ih]
    -- A root that is missing has no walk.
    cases hroot : fs.folder? root with
    | none => rw [scan.walkRoot_of_none hroot]; rfl
    | some entries => rfl

/-- What is hidden below the roots uses up nothing. -/
theorem visits_congr {scan : Scan} {fs' : Files}
    (h : ∀ root ∈ scan.roots,
      (fs'.folder? root).map unhidden = (fs.folder? root).map unhidden) :
    scan.visits fs' = scan.visits fs := by
  -- What the walk of each root goes through does not depend on hidden entries.
  rw [visits_eq_take, visits_eq_take]
  refine congrArg (List.take scan.limit) (List.flatMap_congr fun root hroot => ?_)
  have hwalk (fs : Files) : scan.walkRoot fs root =
      ((fs.folder? root).map unhidden).elim [] (walk (scan.depth - 1) root) := by
    cases hfolder : fs.folder? root with
    | none => exact scan.walkRoot_of_none hfolder
    | some entries => exact (scan.walkRoot_of_some hfolder).trans (walk_unhidden _ _ _).symm
  rw [hwalk, hwalk, h root hroot]

end Scan

/-! ### Main theorem -/

/-- A list has every entry of a folder and below it to which at most `depth` names lead, none of which
is hidden, once and with these names; and it has each folder before what it holds. -/
structure IsListing (depth : Nat) (entries : FileEntries) (listed : List (Place × FileNode)) :
    Prop where
  mem_iff : ∀ place node, (place, node) ∈ listed ↔
    place ≠ [] ∧ IsOpen depth place ∧ Files.find? place entries = some node
  once : (listed.map (·.1)).Nodup
  parents_first : listed.Pairwise IsBefore

/-- The listing of a tree is what the words of `IsListing` say. -/
theorem isListing_listing {entries : FileEntries} (h : isTree entries = true) (depth : Nat) :
    IsListing (depth + 1) entries (listing depth entries) where
  mem_iff _ _ := mem_listing_iff depth entries h
  once := by
    refine List.pairwise_map.mpr ((pairwise_listing depth entries h).imp ?_)
    intro first second hbefore (heq : first.1 = second.1)
    exact hbefore (heq ▸ List.prefix_rfl)
  parents_first := pairwise_listing depth entries h

namespace Scan

/-- A scan visits the first entries of the walks of its roots, one root after the other. -/
structure IsBounded (scan : Scan) (fs : Files) : Prop where
  /-- The walk of a root goes through what can be seen in it, at least one level deep. -/
  walks : ∀ root entries, fs.folder? root = some entries →
    ∃ listed, IsListing (max scan.depth 1) entries listed ∧
      scan.walkRoot fs root = listed.map (visitAt root)
  walks_nothing : ∀ root, fs.folder? root = none → scan.walkRoot fs root = []
  length_le : (scan.visits fs).length ≤ scan.limit
  visits_eq : scan.visits fs = (scan.roots.flatMap (scan.walkRoot fs)).take scan.limit
  items_eq : scan.items fs =
    ((scan.roots.flatMap (scan.walkRoot fs)).take scan.limit).filterMap scan.kind.item?
  /-- A larger limit only appends items. -/
  grows : ∀ limit, scan.limit ≤ limit → scan.items fs <+: { scan with limit }.items fs
  /-- Missing roots and hidden entries use up nothing of the limit. -/
  skips_missing :
    { scan with roots := scan.roots.filter fun root => (fs.folder? root).isSome }.visits fs =
      scan.visits fs
  skips_hidden : ∀ fs' : Files, (∀ root ∈ scan.roots,
    (fs'.folder? root).map unhidden = (fs.folder? root).map unhidden) →
      scan.visits fs' = scan.visits fs

/-- **A bounded scan is the beginning of the full walk** through its roots. -/
theorem visits_first {fs : Files} (h : fs.isTree = true) (scan : Scan) : scan.IsBounded fs where
  walks root entries hroot := by
    -- A depth of zero is walked like a depth of one.
    have hdepth : max scan.depth 1 = scan.depth - 1 + 1 := by omega
    have htree := Files.isTree_folder? h hroot
    refine ⟨listing (scan.depth - 1) entries, hdepth ▸ isListing_listing htree _, ?_⟩
    rw [scan.walkRoot_of_some hroot, walk_eq]
  walks_nothing root hroot := scan.walkRoot_of_none hroot
  length_le := by
    rw [visits_eq_take]
    exact List.length_take_le _ _
  visits_eq := scan.visits_eq_take fs
  items_eq := congrArg (List.filterMap scan.kind.item?) (scan.visits_eq_take fs)
  grows _ hlimit := scan.items_prefix fs hlimit
  skips_missing := scan.visits_filter fs
  skips_hidden _ hsame := visits_congr hsame

/-- A scan for applications that reaches its limit in the last of three roots. -/
theorem visits_first_applications :
    let hidden : FileNode := .folder [("x.exe", .text "")]
    let fs : Files := ⟨[
      ("a", .folder [(".git", hidden), ("b.desktop", .text ""), ("c", .folder [("d", .text "")])]),
      ("e", .folder [("f.EXE", .text ""), ("g.exe", .text "")])], []⟩
    let scan := Scan.applications ["a", "missing", "e"] 4
    fs.isTree = true ∧ (scan.visits fs).map (·.path) = ["a/b.desktop", "a/c", "a/c/d", "e/f.EXE"] ∧
      (scan.items fs).map (·.title) = ["b", "f"] ∧ scan.IsBounded fs := by
  intro hidden fs scan
  have htree : fs.isTree = true := by decide
  exact ⟨htree, by cbv, by cbv, visits_first htree scan⟩

end Scan

end Launcher
