import Launcher.Json.Reader

namespace Launcher.Json

/-!
# Values read off a document

* `Document.text?`, `nat?`, `float?`, `bool?`, `list?`, `optional?`, `name?`, `word?` — the value of
  a document.
* `Fields` — the members of a record by their names.
* `membersOf?` — the members of a record, which may also be written as an array of them.
-/

/-! ### Scalars -/

namespace Document

/-- A text. -/
def text? : Document → Option String
  | .string text => text
  | _ => none

/-- A number that is not negative and fits sixty-four bits. -/
def nat? : Document → Option Nat
  | .number n =>
    match n.value? with
    | some (.int i) => if 0 ≤ i then some i.toNat else none
    | _ => none
  | _ => none

/-- A number as a double. -/
def float? : Document → Option Float
  | .number n =>
    match n.value? with
    | some (.int i) => some (Decimal.ofRatio (i < 0) i.natAbs 1)
    | some (.float x) => some x
    | _ => none
  | _ => none

/-- A truth value. -/
def bool? : Document → Option Bool
  | .bool b => some b
  | _ => none

/-- A list of values of one kind. -/
def list? {α : Type} (read? : Document → Option α) : Document → Option (List α)
  | .array items => items.mapM read?
  | _ => none

/-- A value, or nothing for null. -/
def optional? {α : Type} (read? : Document → Option α) : Document → Option (Option α)
  | .null => some none
  | d => (read? d).map some

/-- Nothing: null, or an empty object where reading is less strict. -/
def isNothing (isLenient : Bool) : Document → Bool
  | .null => true
  | .object [] => isLenient
  | _ => false

/-- A name, which is a text or the only key of an object with nothing as its member. -/
def name? (isLenient : Bool) : Document → Option String
  | .string text => text
  | .object [(key, d)] => if d.isNothing isLenient then key else none
  | _ => none

/-- The value of a name, where reading is less strict. -/
def word? {α : Type} (words : List (String × α)) (d : Document) : Option α :=
  (d.name? true).bind fun name => words.lookup name

end Document

/-! ### Records -/

/-- The members of a record by their names. -/
abbrev Fields : Type := List (String × Document)

/-- The members whose keys all have a text. -/
def keyedMembers? (members : List (Option String × Document)) : Option Fields :=
  members.mapM fun (key, d) => key.map fun key => (key, d)

/-- The members of a record: those of an object, or an array of all of them in order, of which the
last `missing` may be left out. -/
def membersOf? (names : List String) (missing : Nat) : Document → Option Fields
  | .object members => keyedMembers? members
  | .array items =>
    if items.length ≤ names.length ∧ names.length ≤ items.length + missing then
      some (names.zip items)
    else none
  | _ => none

namespace Fields

/-- The member of a name, if there is one; there must not be two. -/
def find? (fields : Fields) (name : String) : Option (Option Document) :=
  match fields.filter (·.1 == name) with
  | [] => some none
  | [(_, d)] => some (some d)
  | _ => none

/-- The value of a member that must be there. -/
def get? {α : Type} (fields : Fields) (name : String) (read? : Document → Option α) : Option α := do
  read? (← ← fields.find? name)

/-- The value of a member that may be missing or null. -/
def getOptional? {α : Type} (fields : Fields) (name : String) (read? : Document → Option α) :
    Option (Option α) := do
  match ← fields.find? name with
  | none => some none
  | some d => d.optional? read?

end Fields

end Launcher.Json
