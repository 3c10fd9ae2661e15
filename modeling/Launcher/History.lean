import Launcher.Item

namespace Launcher

/-!
# Launch history

* `ItemKind.word`, `ItemKind.ofWord` — how the kind of an item is kept.
* `Launch` — an item with the number of its launches and the time of the last one.
* `History` — the launched items; `History.record` counts a launch.
* `History.recent` — the items in the order of their last launches.
-/

namespace ItemKind

/-- The word that a kind is kept as. -/
def word : ItemKind → String
  | .application => "app"
  | .file => "file"
  | .folder => "folder"

/-- The kind of a kept word; any other word stands for a file. -/
def ofWord (word : String) : ItemKind :=
  if word = "app" then .application else if word = "folder" then .folder else .file

@[simp] theorem ofWord_word (kind : ItemKind) : ofWord kind.word = kind := by
  cases kind <;> rfl

end ItemKind

/-- An item with the number of its launches and the time of the last one. -/
structure Launch where
  item : Item
  count : Nat
  lastUsed : Int
deriving Repr, DecidableEq

/-- The item as it is read back, its kind by its word. -/
def Launch.readItem (launch : Launch) : Item :=
  { launch.item with kind := .ofWord launch.item.kind.word }

@[simp] theorem Launch.readItem_eq (launch : Launch) : launch.readItem = launch.item := by
  simp [readItem]

/-- The launched items, each once. -/
structure History where
  launches : List Launch := []
deriving Repr, DecidableEq

namespace History

/-- Counts a launch of an item in a list of launches. What is known of the item is replaced. -/
def recordIn (item : Item) (time : Int) : List Launch → List Launch
  | [] => [⟨item, 1, time⟩]
  | l :: ls =>
    if l.item.id = item.id then ⟨item, l.count + 1, time⟩ :: ls else l :: recordIn item time ls

/-- Counts a launch of an item at a time. -/
def record (h : History) (item : Item) (time : Int) : History :=
  ⟨recordIn item time h.launches⟩

/-- The number of launches of the item with an identity. -/
def count (h : History) (id : String) : Nat :=
  ((h.launches.find? (·.item.id == id)).map (·.count)).getD 0

/-- A launch that stands before another: the later one, then the more frequent one, then by
identity. -/
def precedes (a b : Launch) : Bool :=
  b.lastUsed < a.lastUsed ||
    (a.lastUsed == b.lastUsed &&
      (b.count < a.count || (a.count == b.count && a.item.id ≤ b.item.id)))

/-- The launched items in the order of their last launches, at most `limit` of them. -/
def recent (h : History) (limit : Nat) : List Item :=
  ((h.launches.mergeSort precedes).take limit).map (·.readItem)

end History

end Launcher
