import Launcher.Command.Action

namespace Launcher

/-!
# Applications, files and folders

* `Item` — an application, a file or a folder that can be found by its title.
* `Item.atPath` — the item whose identity is its kind and path.
* `Item.action` — what choosing it does.
-/

/-- What an item is. -/
inductive ItemKind where
  | application
  | file
  | folder
deriving Repr, DecidableEq

/-- An application, a file or a folder. -/
structure Item where
  id : String
  kind : ItemKind
  title : String
  path : String
deriving Repr, DecidableEq

/-- What an identity begins with. -/
def ItemKind.tag : ItemKind → String
  | .application => "app"
  | .file => "file"
  | .folder => "dir"

namespace Item

/-- The item whose identity is its kind and path, so that one file found twice is one item. -/
def atPath (kind : ItemKind) (title path : String) : Item :=
  ⟨kind.tag ++ ":" ++ path, kind, title, path⟩

/-- What choosing the item does. -/
def action (item : Item) : Action :=
  match item.kind with
  | .application => .launchProgram item.path
  | .file => .openFile item.path
  | .folder => .openDirectory item.path

end Item

end Launcher
