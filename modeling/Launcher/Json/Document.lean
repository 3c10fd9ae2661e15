import Launcher.Json.Numeral

namespace Launcher.Json

/-!
# JSON documents as they are written

* `Document` — a JSON text as a tree: repeated members stay, numbers are not yet read, and a string
  may hold an escape that names half of a surrogate pair and thus have no text.
* `Document.depth` — how deeply arrays and objects are nested.
* `Document.isSound` — every string has a text and every number a value.
* `Document.value?` — the value of a sound document.
-/

/-- A JSON text as a tree. -/
inductive Document where
  | null
  | bool (value : Bool)
  | number (numeral : Numeral)
  | string (text : Option String)
  | array (items : List Document)
  | object (members : List (Option String × Document))

mutual

/-- How deeply arrays and objects are nested. -/
def Document.depth : Document → Nat
  | .array items => itemsDepth items + 1
  | .object members => membersDepth members + 1
  | _ => 0

/-- The depth of the deepest item. -/
def itemsDepth : List Document → Nat
  | [] => 0
  | d :: ds => max d.depth (itemsDepth ds)

/-- The depth of the deepest member. -/
def membersDepth : List (Option String × Document) → Nat
  | [] => 0
  | (_, d) :: ds => max d.depth (membersDepth ds)

end

mutual

/-- Every string has a text and every number a value. -/
def Document.isSound : Document → Bool
  | .number n => n.value?.isSome
  | .string text => text.isSome
  | .array items => itemsSound items
  | .object members => membersSound members
  | _ => true

/-- Every item is sound. -/
def itemsSound : List Document → Bool
  | [] => true
  | d :: ds => d.isSound && itemsSound ds

/-- Every member is sound. -/
def membersSound : List (Option String × Document) → Bool
  | [] => true
  | (k, d) :: ds => k.isSome && d.isSound && membersSound ds

end

/-- How deeply a document may be nested. -/
def depthLimit : Nat := 127

/-- Puts a member where its key belongs in the order of keys; a member with that key is replaced. -/
def insertMember (key : String) (value : Value) :
    List (String × Value) → List (String × Value)
  | [] => [(key, value)]
  | (k, v) :: rest =>
    if key < k then (key, value) :: (k, v) :: rest
    else if key = k then (key, value) :: rest
    else (k, v) :: insertMember key value rest

mutual

/-- The value of a sound document: members in the order of their keys, and of members with one key
the last. -/
def Document.value? : Document → Option Value
  | .null => some .null
  | .bool b => some (.bool b)
  | .number n => n.value?
  | .string text => text.map .string
  | .array items => (itemsValue? items).map .array
  | .object members => (membersValue? members []).map .object

/-- The values of the items. -/
def itemsValue? : List Document → Option (List Value)
  | [] => some []
  | d :: ds => do return (← d.value?) :: (← itemsValue? ds)

/-- The members put one after the other into `found`. -/
def membersValue? : List (Option String × Document) → List (String × Value) →
    Option (List (String × Value))
  | [], found => some found
  | (none, _) :: _, _ => none
  | (some k, d) :: ds, found => do membersValue? ds (insertMember k (← d.value?) found)

end

end Launcher.Json
