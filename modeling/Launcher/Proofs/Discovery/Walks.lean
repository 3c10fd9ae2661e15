import Launcher.Discovery.Scan
import Launcher.Proofs.Files

namespace Launcher

/-!
# Walks list the visible entries of a folder

* `isTree` — the entries of every folder have different names.
* `listing` — the visible entries below a folder, each with the names that lead to it.
* `walk_eq` — a walk visits the entries of the listing.
* `mem_listing_iff` — the listing has the entries to which names lead none of which is hidden.
* `pairwise_listing` — each folder comes before what it holds, and no entry comes twice.
* `walk_unhidden` — hidden entries do not matter.

The walk of the program builds paths as texts while it goes down, and two different lists of names
may be joined to one path. So the listing keeps the names themselves, which tell the entries of a
tree apart, and `visitAt` makes the visit of an entry from them.

Nodes and lists of entries are defined together, and so are all statements about them: each theorem
about a list has a companion about a node before it, in one `mutual` block, and the two are proved
by one recursion over the tree. In a tree the names of a folder differ. That is used where a place
is looked up below the first entry of a list: it cannot be found behind that entry as well, so that
what is listed is what `Files.find?` finds, and nothing is listed twice.
-/

/-! ### Trees -/

mutual

/-- A node whose folders have entries of different names. -/
def FileNode.isTree : FileNode → Bool
  | .folder entries => isTree entries
  | _ => true

/-- Entries of different names, in whose folders it is so too. -/
def isTree : List (String × FileNode) → Bool
  | [] => true
  | (name, node) :: rest => rest.all (·.1 != name) && node.isTree && isTree rest

end

/-- All folders of some files have entries of different names. -/
def Files.isTree (fs : Files) : Bool :=
  Launcher.isTree fs.entries

variable {entries inner : FileEntries} {name : String} {node : FileNode} {place : Place}

/-- The entries behind the first one have other names than its own. -/
theorem isTree_cons_iff : isTree ((name, node) :: entries) = true ↔
    (∀ entry ∈ entries, entry.1 ≠ name) ∧ node.isTree = true ∧ isTree entries = true := by
  rw [isTree, Bool.and_eq_true, Bool.and_eq_true, List.all_eq_true, and_assoc]
  simp only [bne_iff_ne]

/-- Every entry of a tree is one. -/
theorem isTree_of_mem (h : isTree entries = true) (hmem : (name, node) ∈ entries) :
    node.isTree = true := by
  induction entries with
  | nil => exact nomatch hmem
  | cons entry entries ih =>
    obtain ⟨-, hnode, hrest⟩ := isTree_cons_iff.mp h
    obtain heq | hmem := List.mem_cons.mp hmem
    · rwa [← heq] at hnode
    · exact ih hrest hmem

/-- What is looked up is among the entries. -/
theorem mem_of_lookup (h : entries.lookup name = some node) : (name, node) ∈ entries := by
  obtain ⟨before, after, rfl, -⟩ := List.lookup_eq_some_iff.mp h
  exact List.mem_append_right before List.mem_cons_self

/-- The folders of a tree are trees. -/
theorem isTree_of_find? (h : isTree entries = true)
    (hfolder : Files.find? place entries = some (.folder inner)) : isTree inner = true := by
  induction place generalizing entries with
  | nil =>
    obtain rfl : entries = inner := FileNode.folder.inj (Option.some.inj hfolder)
    exact h
  | cons name place ih =>
    obtain ⟨outer, hname, hplace⟩ := Files.exists_of_find?_folder hfolder
    -- The first name leads to a folder of the tree, in which the others are followed.
    have houter : (FileNode.folder outer).isTree = true :=
      isTree_of_mem h (mem_of_lookup hname)
    rw [FileNode.isTree] at houter
    exact ih houter hplace

/-- The folder of a root has a tree below it. -/
theorem Files.isTree_folder? {fs : Files} (h : fs.isTree = true) {root : String}
    (hroot : fs.folder? root = some entries) : Launcher.isTree entries = true := by
  obtain ⟨place, -, hplace⟩ := Option.bind_eq_some_iff.mp hroot
  exact isTree_of_find? h (Files.entriesAt?_eq_some.mp hplace)

/-! ### Listings -/

/-- A folder. -/
def FileNode.isFolder : FileNode → Bool
  | .folder _ => true
  | _ => false

mutual

/-- An entry, and the visible entries below it down to a further depth, each with the names that lead
to it. -/
def nodeListing (depth : Nat) (name : String) : FileNode → List (Place × FileNode)
  | .folder entries => ([name], .folder entries) :: match depth with
    | 0 => []
    | depth + 1 => (listing depth entries).map fun entry => (name :: entry.1, entry.2)
  | node => [([name], node)]

/-- The visible entries of a folder and below it down to a further depth, each with the names that
lead to it. -/
def listing (depth : Nat) : List (String × FileNode) → List (Place × FileNode)
  | [] => []
  | (name, node) :: rest =>
    (if isHidden name then [] else nodeListing depth name node) ++ listing depth rest

end

theorem nodeListing_folder_zero : nodeListing 0 name (.folder entries) =
    [([name], .folder entries)] :=
  rfl

/-- With one, what the folder holds comes after it, each entry behind the name of the folder. -/
theorem nodeListing_folder_succ (depth : Nat) : nodeListing (depth + 1) name (.folder entries) =
    ([name], .folder entries) ::
      (listing depth entries).map fun entry => (name :: entry.1, entry.2) :=
  rfl

/-- The names that lead to what is listed for an entry begin with its own. -/
theorem exists_of_mem_nodeListing {depth : Nat} {other : FileNode}
    (h : (place, other) ∈ nodeListing depth name node) : ∃ rest, place = name :: rest := by
  cases node with
  | folder entries =>
    cases depth with
    | zero => exact ⟨[], (Prod.mk.inj (List.mem_singleton.mp h)).1⟩
    | succ depth =>
      rw [nodeListing_folder_succ] at h
      obtain heq | h := List.mem_cons.mp h
      · exact ⟨[], (Prod.mk.inj heq).1⟩
      · obtain ⟨entry, -, heq⟩ := List.mem_map.mp h
        exact ⟨entry.1, (Prod.mk.inj heq).1.symm⟩
  | text content => exact ⟨[], (Prod.mk.inj (List.mem_singleton.mp h)).1⟩
  | history content => exact ⟨[], (Prod.mk.inj (List.mem_singleton.mp h)).1⟩

/-- An entry is listed for the first one, if that can be seen, or for one of the others. -/
theorem mem_listing_cons_iff {depth : Nat} {other : FileNode} :
    (place, other) ∈ listing depth ((name, node) :: entries) ↔
      isHidden name = false ∧ (place, other) ∈ nodeListing depth name node ∨
        (place, other) ∈ listing depth entries := by
  rw [listing, List.mem_append]
  cases isHidden name <;> simp

/-- The folder itself is not among its entries. -/
theorem ne_nil_of_mem_listing {depth : Nat} (h : (place, node) ∈ listing depth entries) :
    place ≠ [] := by
  induction entries with
  | nil => exact nomatch h
  | cons entry entries ih =>
    obtain ⟨name, other⟩ := entry
    obtain ⟨-, h⟩ | h := mem_listing_cons_iff.mp h
    · obtain ⟨rest, rfl⟩ := exists_of_mem_nodeListing h
      exact List.cons_ne_nil name rest
    · exact ih h

/-! ### Walks -/

/-- The visit of an entry to which names lead from a folder. -/
def visitAt (folder : String) (entry : Place × FileNode) : Visit :=
  ⟨entry.1.foldl Environment.join folder, entry.1.getLastD "", entry.2.isFolder⟩

/-- To go through one more folder first makes its path longer and changes nothing else. -/
theorem visitAt_cons {folder : String} {depth : Nat} {entry : Place × FileNode}
    (h : entry ∈ listing depth entries) :
    visitAt folder (name :: entry.1, entry.2) = visitAt (Environment.join folder name) entry := by
  obtain ⟨first, rest, hplace⟩ := List.exists_cons_of_ne_nil (ne_nil_of_mem_listing h)
  simp only [visitAt, hplace, List.foldl_cons, List.getLastD_cons]

mutual

/-- A walk through an entry visits what is listed for it. -/
theorem visitNode_eq (depth : Nat) (folder name : String) : (node : FileNode) →
    visitNode depth (Environment.join folder name) name node =
      (nodeListing depth name node).map (visitAt folder)
  | .folder entries => by
    cases depth with
    | zero => rfl
    | succ depth =>
      have hvisit : visitNode (depth + 1) (Environment.join folder name) name (.folder entries) =
          ⟨Environment.join folder name, name, true⟩ ::
            walk depth (Environment.join folder name) entries := rfl
      rw [hvisit, nodeListing_folder_succ, List.map_cons, List.map_map,
        walk_eq depth (Environment.join folder name) entries]
      exact congrArg _ (List.map_congr_left fun entry hentry => (visitAt_cons hentry).symm)
  | .text _ => rfl
  | .history _ => rfl

/-- **A walk visits the entries of the listing.** -/
theorem walk_eq (depth : Nat) (folder : String) : (entries : List (String × FileNode)) →
    walk depth folder entries = (listing depth entries).map (visitAt folder)
  | [] => rfl
  | (name, node) :: rest => by
    rw [walk, listing, List.map_append, walk_eq depth folder rest]
    cases isHidden name with
    | true => rfl
    | false => exact congrArg (· ++ _) (visitNode_eq depth folder name node)

end

/-! ### Names that lead to an entry -/

/-- What names lead to from a node. -/
def FileNode.find? (place : Place) : FileNode → Option FileNode
  | .folder entries => Files.find? place entries
  | node => if place.isEmpty then some node else none

/-- The name of the first entry leads to it. -/
theorem find?_cons_self : Files.find? (name :: place) ((name, node) :: entries) =
    node.find? place := by
  rw [Files.find?, List.lookup_cons_self]
  cases node <;> rfl

/-- Another name leads past it. -/
theorem find?_cons_of_ne {other : String} (h : other ≠ name) :
    Files.find? (other :: place) ((name, node) :: entries) =
      Files.find? (other :: place) entries := by
  have hne : (other == name) = false := by simpa using h
  rw [Files.find?, List.lookup_cons, hne, Files.find?]

/-- A name that no entry has leads to nothing. -/
theorem find?_eq_none (h : ∀ entry ∈ entries, entry.1 ≠ name) :
    Files.find? (name :: place) entries = none := by
  have hlookup : entries.lookup name = none :=
    List.lookup_eq_none_iff.mpr fun entry hentry => by simpa using (h entry hentry).symm
  rw [Files.find?, hlookup]

/-- None of the names is hidden, and there are no more than a depth allows. -/
structure IsOpen (depth : Nat) (place : Place) : Prop where
  length_le : place.length ≤ depth
  visible : ∀ name ∈ place, isHidden name = false

theorem isOpen_nil (depth : Nat) : IsOpen depth [] :=
  ⟨Nat.zero_le depth, List.forall_mem_nil _⟩

/-- A depth of zero allows no name. -/
theorem not_isOpen_zero : ¬IsOpen 0 (name :: place) :=
  fun h => absurd h.length_le (Nat.not_succ_le_zero place.length)

/-- One more name has to be visible itself, and takes one level. -/
theorem isOpen_cons_iff {depth : Nat} : IsOpen (depth + 1) (name :: place) ↔
    isHidden name = false ∧ IsOpen depth place := by
  constructor
  · rintro ⟨hlength, hvisible⟩
    obtain ⟨hname, hrest⟩ := List.forall_mem_cons.mp hvisible
    exact ⟨hname, Nat.le_of_succ_le_succ hlength, hrest⟩
  · rintro ⟨hname, hlength, hrest⟩
    exact ⟨Nat.succ_le_succ hlength, List.forall_mem_cons.mpr ⟨hname, hrest⟩⟩

/-- Only its own name leads to an entry that is no folder. -/
theorem mem_leaf_iff {other : FileNode} (depth : Nat) :
    (name :: place, other) ∈ [([name], node)] ↔
      IsOpen depth place ∧ (if place.isEmpty then some node else none) = some other := by
  cases place with
  | nil => simp [isOpen_nil, eq_comm]
  | cons n place => simp

mutual

/-- **What is listed for an entry** is what its name, followed by names none of which is hidden,
leads to. -/
theorem mem_nodeListing_iff {name : String} {place : Place} {other : FileNode} (depth : Nat) :
    (node : FileNode) → node.isTree = true →
      ((name :: place, other) ∈ nodeListing depth name node ↔
        IsOpen depth place ∧ node.find? place = some other)
  | .folder entries, h => by
    rw [FileNode.isTree] at h
    cases depth with
    | zero =>
      rw [nodeListing_folder_zero]
      cases place with
      | nil => simp [isOpen_nil, FileNode.find?, Files.find?, eq_comm]
      | cons n place => simp [not_isOpen_zero]
    | succ depth =>
      -- All that is listed below the folder has its name in front.
      have hbelow : (∃ entry ∈ listing depth entries,
          (name :: entry.1, entry.2) = (name :: place, other)) ↔
            (place, other) ∈ listing depth entries := by
        constructor
        · rintro ⟨entry, hentry, heq⟩
          obtain ⟨hplace, rfl⟩ := Prod.mk.inj heq
          rwa [← (List.cons.inj hplace).2]
        · exact fun hentry => ⟨_, hentry, rfl⟩
      rw [nodeListing_folder_succ, List.mem_cons, List.mem_map, hbelow,
        mem_listing_iff depth entries h]
      cases place with
      | nil => simp [isOpen_nil, FileNode.find?, Files.find?, eq_comm]
      | cons n place => simp [FileNode.find?]
  | .text _, _ => mem_leaf_iff depth
  | .history _, _ => mem_leaf_iff depth

/-- **The listing of a tree** has the entries to which names lead none of which is hidden. -/
theorem mem_listing_iff {place : Place} {other : FileNode} (depth : Nat) :
    (entries : List (String × FileNode)) → isTree entries = true →
      ((place, other) ∈ listing depth entries ↔
        place ≠ [] ∧ IsOpen (depth + 1) place ∧ Files.find? place entries = some other)
  | [], _ => by
    cases place with
    | nil => simp [listing]
    | cons n place => simp [listing, Files.find?]
  | (name, node) :: rest, h => by
    obtain ⟨hnames, hnode, hrest⟩ := isTree_cons_iff.mp h
    rw [mem_listing_cons_iff, mem_listing_iff depth rest hrest]
    cases place with
    | nil =>
      have hnot : ([], other) ∉ nodeListing depth name node := fun hmem =>
        nomatch exists_of_mem_nodeListing hmem
      simp [hnot]
    | cons n place =>
      by_cases hn : n = name
      · -- An entry with the name of the first one is not to be found behind it.
        subst hn
        rw [mem_nodeListing_iff depth node hnode, find?_cons_self, find?_eq_none hnames,
          isOpen_cons_iff]
        simp [and_assoc]
      · have hnot : (n :: place, other) ∉ nodeListing depth name node := fun hmem => by
          obtain ⟨rest, heq⟩ := exists_of_mem_nodeListing hmem
          exact hn (List.cons.inj heq).1
        simp [hnot, find?_cons_of_ne hn]

end

/-! ### Order -/

/-- The first of two entries does not lie below the second, nor is it the same. -/
def IsBefore (first second : Place × FileNode) : Prop :=
  ¬second.1 <+: first.1

/-- The same name in front of both changes nothing. -/
theorem isBefore_cons {first second : Place × FileNode} (h : IsBefore first second) :
    IsBefore (name :: first.1, first.2) (name :: second.1, second.2) :=
  fun hprefix => h ((List.prefix_cons_inj name).mp hprefix)

mutual

/-- What is listed for an entry of a tree is in order. -/
theorem pairwise_nodeListing (depth : Nat) (name : String) : (node : FileNode) →
    node.isTree = true → (nodeListing depth name node).Pairwise IsBefore
  | .folder entries, h => by
    rw [FileNode.isTree] at h
    cases depth with
    | zero => exact List.pairwise_singleton _ _
    | succ depth =>
      rw [nodeListing_folder_succ, List.pairwise_cons, List.pairwise_map]
      refine ⟨?_, (pairwise_listing depth entries h).imp isBefore_cons⟩
      -- The place of the folder is shorter than those below it.
      intro entry hentry hprefix
      obtain ⟨below, hbelow, rfl⟩ := List.mem_map.mp hentry
      have hnil := (List.prefix_cons_inj name).mp hprefix
      exact ne_nil_of_mem_listing hbelow (List.prefix_nil.mp hnil)
  | .text _, _ => List.pairwise_singleton _ _
  | .history _, _ => List.pairwise_singleton _ _

/-- **Each folder of a tree comes before what it holds**, and no entry comes twice. -/
theorem pairwise_listing (depth : Nat) : (entries : List (String × FileNode)) →
    isTree entries = true → (listing depth entries).Pairwise IsBefore
  | [], _ => List.Pairwise.nil
  | (name, node) :: rest, h => by
    obtain ⟨hnames, hnode, hrest⟩ := isTree_cons_iff.mp h
    rw [listing, List.pairwise_append]
    refine ⟨?_, pairwise_listing depth rest hrest, ?_⟩
    · split
      next => exact List.Pairwise.nil
      next => exact pairwise_nodeListing depth name node hnode
    · rintro ⟨place, first⟩ hfirst ⟨other, second⟩ hsecond hprefix
      -- Names that lead to an entry behind the first one begin with another name than its own.
      obtain ⟨hne, -, hfind⟩ := (mem_listing_iff depth rest hrest).mp hsecond
      obtain ⟨n, below, rfl⟩ := List.exists_cons_of_ne_nil hne
      split at hfirst
      next => exact nomatch hfirst
      next =>
        obtain ⟨tail, rfl⟩ := exists_of_mem_nodeListing hfirst
        obtain ⟨rfl, -⟩ := List.cons_prefix_cons.mp hprefix
        rw [find?_eq_none hnames] at hfind
        exact nomatch hfind

end

/-! ### Hidden entries -/

mutual

/-- A node without the hidden entries of its folders. -/
def FileNode.unhidden : FileNode → FileNode
  | .folder entries => .folder (unhidden entries)
  | node => node

/-- Entries without the hidden ones, and without those in their folders. -/
def unhidden : List (String × FileNode) → List (String × FileNode)
  | [] => []
  | (name, node) :: rest =>
    if isHidden name then unhidden rest else (name, node.unhidden) :: unhidden rest

end

mutual

/-- Hidden entries do not matter for a walk through an entry. -/
theorem visitNode_unhidden (depth : Nat) (path name : String) : (node : FileNode) →
    visitNode depth path name node.unhidden = visitNode depth path name node
  | .folder entries => by
    cases depth with
    | zero => rfl
    | succ depth => exact congrArg (⟨path, name, true⟩ :: ·) (walk_unhidden depth path entries)
  | .text _ => rfl
  | .history _ => rfl

/-- **Hidden entries do not matter** for a walk. -/
theorem walk_unhidden (depth : Nat) (folder : String) : (entries : List (String × FileNode)) →
    walk depth folder (unhidden entries) = walk depth folder entries
  | [] => rfl
  | (name, node) :: rest => by
    rw [unhidden]
    cases hname : isHidden name with
    -- A hidden entry is walked past, and it is not there without the hidden ones.
    | true =>
      rw [if_pos rfl, walk, hname, if_pos rfl, walk_unhidden depth folder rest]
      rfl
    | false =>
      rw [if_neg Bool.false_ne_true, walk, walk, hname, visitNode_unhidden,
        walk_unhidden depth folder rest]

end

end Launcher
