import Launcher.Files
import Launcher.Item
import Launcher.Settings.Basic

namespace Launcher

/-!
# Applications and files in folders

* `Visit` — an entry of a folder with its path.
* `walk` — the visible entries below a folder, each folder before what it holds.
* `ScanKind.item?` — the item that an entry stands for.
* `Scan.visits`, `Scan.items` — the first entries of some folders, and the items among them.

Every entry can be read. An unreadable one would be passed over without being counted, and a
symbolic link would not be followed.
-/

/-- An entry of a folder with its path. -/
structure Visit where
  path : String
  name : String
  isFolder : Bool
deriving Repr, DecidableEq

/-- An entry that is passed over, with everything in it. -/
def isHidden (name : String) : Bool :=
  name.startsWith "."

mutual

/-- What is visited for an entry and below it, down to a depth. -/
def visitNode (depth : Nat) (path name : String) : FileNode → List Visit
  | .folder entries =>
    ⟨path, name, true⟩ :: match depth with
      | 0 => []
      | depth + 1 => walk depth path entries
  | _ => [⟨path, name, false⟩]

/-- The visible entries of a folder and below it, down to a further depth. -/
def walk (depth : Nat) (folder : String) : List (String × FileNode) → List Visit
  | [] => []
  | (name, node) :: rest =>
    (if isHidden name then [] else visitNode depth (Environment.join folder name) name node) ++
      walk depth folder rest

end

/-! ### Items -/

/-- What a scan looks for. -/
inductive ScanKind where
  | applications
  | files
deriving Repr, DecidableEq

/-- The name up to its last point, and what follows the point, if something stands before it. -/
def splitExtension (name : String) : String × Option String :=
  match Text.cutAtLast? ['.'] name.toList with
  | some (stem, ext) =>
    if stem.isEmpty then (name, none) else (String.ofList stem, some (String.ofList ext))
  | none => (name, none)

/-- The extensions of the files that are applications. -/
def applicationExtensions : List String :=
  ["desktop", "lnk", "exe", "app", "appref-ms"]

/-- An extension is one of some, in any case of letters. -/
def hasExtension (extensions : List String) (ext : Option String) : Bool :=
  ext.any fun e => extensions.any (Text.equalIgnoringCase · e)

/-- The item that an entry stands for: in a scan for applications, a file with one of their
extensions or a bundle, which is a folder; otherwise any file or folder. -/
def ScanKind.item? (kind : ScanKind) (v : Visit) : Option Item :=
  match kind with
  | .files => some (.atPath (if v.isFolder then .folder else .file) v.name v.path)
  | .applications =>
    let (stem, ext) := splitExtension v.name
    let extensions := if v.isFolder then ["app"] else applicationExtensions
    if hasExtension extensions ext then some (.atPath .application stem v.path) else none

/-! ### Scans -/

/-- What a scan looks for, in which folders, among how many entries and how deeply. -/
structure Scan where
  kind : ScanKind
  roots : List String
  limit : Nat
  depth : Nat
deriving Repr, DecidableEq

namespace Scan

/-- A scan for applications, three levels deep. -/
def applications (roots : List String) (limit : Nat) : Scan :=
  ⟨.applications, roots, limit, 3⟩

/-- A scan for files and folders. -/
def files (roots : List String) (limit depth : Nat) : Scan :=
  ⟨.files, roots, limit, depth⟩

/-- All entries below a root, at least one level deep; none if it is no folder. -/
def walkRoot (scan : Scan) (fs : Files) (root : String) : List Visit :=
  match fs.folder? root with
  | some entries => walk (scan.depth - 1) root entries
  | none => []

/-- Visits entries one after the other, when some have been visited already, up to the one with which
the limit is reached. -/
def visitEntries (limit : Nat) : (visited : Nat) → List Visit → List Visit
  | _, [] => []
  | visited, v :: rest =>
    if limit ≤ visited + 1 then [v] else v :: visitEntries limit (visited + 1) rest

/-- Visits the entries below roots one after the other, when some have been visited already, until
the limit is reached. -/
def visitRoots (scan : Scan) (fs : Files) : (visited : Nat) → (roots : List String) → List Visit
  | _, [] => []
  | visited, root :: roots =>
    if scan.limit ≤ visited then []
    else
      let visits := visitEntries scan.limit visited (scan.walkRoot fs root)
      visits ++ visitRoots scan fs (visited + visits.length) roots

/-- The entries that are visited. -/
def visits (scan : Scan) (fs : Files) : List Visit :=
  scan.visitRoots fs 0 scan.roots

/-- The items that are found. -/
def items (scan : Scan) (fs : Files) : List Item :=
  (scan.visits fs).filterMap scan.kind.item?

end Scan

end Launcher
