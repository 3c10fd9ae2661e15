import Launcher.History
import Launcher.Text.Split

namespace Launcher

/-!
# Files and folders

* `FileNode` — a text, a launch history, or a folder.
* `Files` — all files, and the working directory from which relative paths start.
* `Files.place?` — the folder or file that a path leads to, by way of folders only.
* `Files.text?`, `folder?` — what lies there.
* `Files.makeFolders?`, `write?`, `remove` — changes.

Everything can be read here: there are no permissions and no symbolic links, and a folder lists its
entries in the order in which it keeps them.
-/

/-- A file or a folder. -/
inductive FileNode where
  | text (content : String)
  /-- A file that is no text but keeps a launch history. -/
  | history (content : History)
  | folder (entries : List (String × FileNode))

/-- The entries of a folder by their names. -/
abbrev FileEntries : Type := List (String × FileNode)

/-- A file or folder as the names that lead to it from the outermost folder. -/
abbrev Place : Type := List String

/-- All files, and the working directory. -/
structure Files where
  entries : FileEntries := []
  /-- The working directory. -/
  here : Place := []

namespace Files

/-! ### Paths -/

/-- The parts of a path between its slashes. -/
def parts (path : String) : List String :=
  Text.splitAtEach '/' path

/-- The names of a path, without the parts that lead nowhere. -/
def names (path : String) : List String :=
  (parts path).filter fun part => part != "" && part != "."

/-- A path that starts from the outermost folder. -/
def isAbsolute (path : String) : Bool :=
  path.startsWith "/"

/-- Where a path starts from. -/
def start (fs : Files) (path : String) : Place :=
  if isAbsolute path then [] else fs.here

/-- What some names lead to, from some entries on. -/
def find? : (place : Place) → FileEntries → Option FileNode
  | [], entries => some (.folder entries)
  | name :: rest, entries =>
    match entries.lookup name with
    | some (.folder inner) => find? rest inner
    | some node => if rest.isEmpty then some node else none
    | none => none

/-- What lies at a place. -/
def at? (fs : Files) (place : Place) : Option FileNode :=
  find? place fs.entries

/-- The entries of the folder at a place. -/
def entriesAt? (fs : Files) (place : Place) : Option FileEntries :=
  match fs.at? place with
  | some (.folder entries) => some entries
  | _ => none

/-- Where a part of a path leads from a place, which has to be a folder. -/
def step? (fs : Files) (place : Place) (part : String) : Option Place := do
  let entries ← fs.entriesAt? place
  if part = "" ∨ part = "." then some place
  else if part = ".." then some place.dropLast
  else (entries.lookup part).map fun _ => place ++ [part]

/-- Where a path leads. The empty path leads nowhere. -/
def place? (fs : Files) (path : String) : Option Place :=
  if path.isEmpty || path.contains '\x00' then none
  else (parts path).foldlM (step? fs) (fs.start path)

/-! ### What is there -/

/-- There is a file or folder. -/
def exists? (fs : Files) (path : String) : Bool :=
  (fs.place? path).isSome

/-- The file or folder that a path leads to. -/
def node? (fs : Files) (path : String) : Option FileNode :=
  (fs.place? path).bind fs.at?

/-- The content of a text file. -/
def text? (fs : Files) (path : String) : Option String :=
  match fs.node? path with
  | some (.text content) => some content
  | _ => none

/-- The entries of a folder. -/
def folder? (fs : Files) (path : String) : Option FileEntries :=
  (fs.place? path).bind fs.entriesAt?

mutual

/-- The paths of all files under a node whose path is `path`. -/
def filePaths (path : String) : FileNode → List String
  | .folder entries => entryPaths (path ++ "/") entries
  | _ => [path]

/-- The paths of all files under entries whose paths begin with `start`. -/
def entryPaths (start : String) : List (String × FileNode) → List String
  | [] => []
  | (name, node) :: rest => filePaths (start ++ name) node ++ entryPaths start rest

end

/-- The paths of all files in the working directory. -/
def paths (fs : Files) : List String :=
  entryPaths "" ((fs.entriesAt? fs.here).getD [])

/-! ### Changes -/

/-- Puts an entry in the place of the one of its name, or at the end. -/
def putEntry (name : String) (node : FileNode) : FileEntries → FileEntries
  | [] => [(name, node)]
  | (n, m) :: rest => if n = name then (n, node) :: rest else (n, m) :: putEntry name node rest

/-- Changes the entries of the folder at a place. -/
def change (f : FileEntries → FileEntries) : Place → FileEntries → FileEntries
  | [], entries => f entries
  | name :: rest, entries =>
    match entries.lookup name with
    | some (.folder inner) => putEntry name (.folder (change f rest inner)) entries
    | _ => entries

/-- Puts a file or folder under a name into the folder at a place. -/
def put (fs : Files) (place : Place) (name : String) (node : FileNode) : Files :=
  { fs with entries := change (putEntry name node) place fs.entries }

/-- Removes a file from the folder at a place; a folder stays. -/
def remove (fs : Files) (place : Place) (name : String) : Files :=
  let isRemoved := fun (n, node) => n == name && !(node matches FileNode.folder _)
  { fs with entries := change (·.filter (!isRemoved ·)) place fs.entries }

/-- Goes on to a part of a path; the folder comes into being if there is nothing. -/
def enter? (fs : Files) (place : Place) (part : String) : Option (Files × Place) :=
  match fs.step? place part, fs.entriesAt? place with
  | some next, _ => some (fs, next)
  | none, some _ => some (fs.put place part (.folder []), place ++ [part])
  | none, none => none

/-- Makes the folders that some names lead to from a place, where there are none yet. -/
def makeFoldersFrom? (fs : Files) (place : Place) (names : List String) : Option Files := do
  let (fs, place) ← names.foldlM (fun (fs, place) name => fs.enter? place name) (fs, place)
  (fs.entriesAt? place).map fun _ => fs

/-- Makes the folder of a path and those on the way to it. -/
def makeFolders? (fs : Files) (path : String) : Option Files :=
  fs.makeFoldersFrom? (fs.start path) (names path)

/-- Makes the folder that the last name of a path is to lie in. -/
def makeParent? (fs : Files) (path : String) : Option Files :=
  fs.makeFoldersFrom? (fs.start path) (names path).dropLast

/-- Writes a file into a folder that there is; a folder is not replaced. -/
def write? (fs : Files) (path : String) (node : FileNode) : Option Files := do
  let ps := parts path
  let name ← ps.getLast?
  if path.contains '\x00' || name ∈ ["", ".", ".."] then none
  else
    let place ← ps.dropLast.foldlM (step? fs) (fs.start path)
    match (← fs.entriesAt? place).lookup name with
    | some (.folder _) => none
    | _ => some (fs.put place name node)

end Files

end Launcher
