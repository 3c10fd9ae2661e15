import Launcher.Proofs.Settings.Trees
import Launcher.Settings.Store

namespace Launcher.Settings

/-!
# Settings read off their own tree

A written file is turned into a tree first, and then into settings: each member of a record is
looked up by its name and read as what it should be. This file says what comes back for the tree of
written settings.

* `wordRead`, `Settings.reread` — what a whole number of sixty-four bits, and settings with such
  numbers in them, come back as.
* `Record.setAll?_cons` — one member of a record after the other.
* `read?_groupJson`, `read?_commandJson` — groups and commands come back as they were.
* `ofNode?_toJson` — the settings that the tree of written settings holds.

Numbers are the only thing that may change. The reader takes each of them for a double, which has
fifty-three bits, and a larger number is rounded to one that a double holds. A number that would
then be too large is cut off at the largest one. The sixteen bits of the number of results are too
few for any of this to happen.

A record is read one member after the other, so its proof is a chain with one link for each member,
in the order in which they are written. A member that comes back as it was is a link that holds by
computation; the others name the lemma for their kind.
-/

open Json5 (node itemNodes)

/-! ### Numbers -/

/-- What a whole number of sixty-four bits comes back as: a double has carried it, and a number that
is too large is cut off. -/
def wordRead (n : UInt64) : UInt64 :=
  UInt64.ofNat (min (UInt64.size - 1) (Decimal.nearestWhole n.toNat))

/-- The digits of a number are read as the double next to it. -/
theorem decimalNode_digits {n : Nat} (h : n < 2 ^ 64) :
    Json5.decimalNode [] (Decimal.digits n) =
      .number (Decimal.ofRatio false n 1) (decide (1 <<< 63 ≤ n)) := by
  have hfinite := Decimal.isFinite_ofRatio h
  unfold Json5.decimalNode
  rw [List.nil_append, Decimal.readFloat?_whole h, Option.filter_some, hfinite]
  simp [Decimal.readNat?_digits]

/-- So the number is read as that double, and cut off if it is too large. -/
theorem word?_digits {n : Nat} (h : n < 2 ^ 64) (bits : Nat) :
    (Json5.decimalNode [] (Decimal.digits n)).word? bits =
      some (min (1 <<< bits - 1) (Decimal.nearestWhole n)) := by
  obtain ⟨q, e, hvalue, hshift⟩ := Decimal.ofFloat_ofRatio h
  rw [decimalNode_digits h]
  simp only [Node.word?, Node.clampedWord, hvalue, hshift, Bool.false_eq_true, if_false]

/-- A number of sixty-four bits is read as a double has carried it. -/
theorem word?_long (n : UInt64) :
    ((node (.int n.toNat)).word? 64).map UInt64.ofNat = some (wordRead n) := by
  have hn : n.toNat < 2 ^ 64 := n.toNat_lt
  show ((Json5.decimalNode [] (Decimal.digits (n.toNat : Int).natAbs)).word? 64).map _ = _
  rw [Int.natAbs_natCast, word?_digits hn]
  rfl

/-- A number of sixteen bits is read as itself. -/
theorem word?_short (n : UInt16) : (node (.int n.toNat)).word? 16 = some n.toNat := by
  have hn : n.toNat < 2 ^ 16 := n.toNat_lt
  show (Json5.decimalNode [] (Decimal.digits (n.toNat : Int).natAbs)).word? 16 = _
  rw [Int.natAbs_natCast, word?_digits (Nat.lt_trans hn (by decide)),
    Decimal.nearestWhole_of_lt (Nat.lt_trans hn (by decide))]
  congr 1
  exact Nat.min_eq_right (Nat.le_pred_of_lt hn)

/-! ### Lists -/

/-- A list is read back if its items are. -/
theorem mapM_itemNodes {α : Type} {toValue : α → Json.Value} {read? : Node → Option α}
    (h : ∀ x, read? (node (toValue x)) = some x) (xs : List α) :
    (itemNodes (xs.map toValue)).mapM read? = some xs := by
  induction xs with
  | nil => rfl
  | cons x xs ih =>
    rw [List.map_cons, itemNodes, List.mapM_cons, h, ih]
    rfl

/-- A list of texts is read back. -/
theorem list?_texts (texts : List String) :
    (node (textsJson texts)).list? Node.text? = some texts :=
  mapM_itemNodes (fun t => (rfl : (node (.string t)).text? = some t)) texts

/-! ### Records -/

/-- A member that can be read is set, and then the others are. -/
theorem Record.setAll?_cons {α : Type} {r : Record α} {name : String} {node : Node}
    {rest : List (String × Node)} {x y : α} (hname : r.names.contains name = true)
    (hset : r.set? name node x = some y) :
    r.setAll? ((name, node) :: rest) x = r.setAll? rest y := by
  rw [Record.setAll?, if_pos hname, hset]
  rfl

/-- The members of a written record are all known, and none comes twice. -/
theorem Record.read?_tableNode {α : Type} {r : Record α} {members : List (String × Node)}
    (hnames : members.map (·.1) = r.names) (honce : r.isOnce r.names = true) (start : α) :
    r.read? start (Json5.tableNode members) = r.setAll? members start :=
  if_pos (hnames ▸ honce)

/-! ### Groups and commands -/

/-- The kind of a command is read off its name. -/
theorem named?_kind (kind : CommandKind) :
    (Node.text kind.name).named? CommandKind.words = some kind := by
  cases kind <;> rfl

/-- A provider is read off its name. -/
theorem named?_webSearch (webSearch : WebSearch) :
    (Node.text webSearch.name).named? WebSearch.words = some webSearch := by
  cases webSearch <;> rfl

/-- A hotkey is read back, and so is its absence. -/
theorem optional?_hotkey (hotkey : Option String) :
    (node (hotkey.elim .null .string)).optional? Node.text? = some hotkey := by
  cases hotkey <;> rfl

/-- A group comes back as it was. -/
theorem read?_groupJson (g : CommandGroup) :
    groupRecord.read? {} (node (groupJson g)) = some g := by
  refine (Record.read?_tableNode rfl (by decide) _).trans ?_
  refine (Record.setAll?_cons rfl rfl).trans ?_
  exact Record.setAll?_cons rfl rfl

/-- A command comes back as it was, all of its members being texts, words or switches. -/
theorem read?_commandJson (c : Command) :
    commandRecord.read? {} (node (commandJson c)) = some c := by
  -- The members follow in the order in which they are written.
  refine (Record.read?_tableNode rfl (by decide) _).trans ?_
  refine (Record.setAll?_cons rfl rfl).trans ?_
  refine (Record.setAll?_cons rfl rfl).trans ?_
  refine (Record.setAll?_cons rfl rfl).trans ?_
  refine (Record.setAll?_cons rfl (congrArg (Option.map _) (named?_kind c.kind))).trans ?_
  refine (Record.setAll?_cons rfl rfl).trans ?_
  refine (Record.setAll?_cons rfl rfl).trans ?_
  refine (Record.setAll?_cons rfl rfl).trans ?_
  refine (Record.setAll?_cons rfl rfl).trans ?_
  refine (Record.setAll?_cons rfl (congrArg (Option.map _) (optional?_hotkey c.hotkey))).trans ?_
  rfl

/-! ### The settings -/

/-- What settings come back as. -/
def reread (s : Settings) : Settings :=
  { s with
    debounceMs := wordRead s.debounceMs
    qrThreshold := wordRead s.qrThreshold
    rateTtlSecs := wordRead s.rateTtlSecs
    rateGraceSecs := wordRead s.rateGraceSecs
    fileScanLimit := wordRead s.fileScanLimit
    fileScanDepth := wordRead s.fileScanDepth
    appScanLimit := wordRead s.appScanLimit
    recentLimit := wordRead s.recentLimit }

/-- **The tree of written settings** holds them, their path aside, with each number as a double has
carried it. -/
theorem ofNode?_toJson (start s : Settings) :
    ofNode? start (node s.toJson) = some { reread s with path := start.path } := by
  have hgroups : (node (.array (s.groups.map groupJson))).list? (groupRecord.read? {}) =
      some s.groups := mapM_itemNodes read?_groupJson s.groups
  have hcommands : (node (.array (s.commands.map commandJson))).list? (commandRecord.read? {}) =
      some s.commands := mapM_itemNodes read?_commandJson s.commands
  have hmax : record.set? "max_results" (node (.int s.maxResults.toNat)) start =
      some { start with maxResults := s.maxResults } := by
    refine (congrArg (Option.map _) (word?_short s.maxResults)).trans ?_
    rw [Option.map_some, UInt16.ofNat_toNat]
  -- The members follow in the order in which they are written.
  refine (Record.read?_tableNode rfl (by decide) _).trans ?_
  refine (Record.setAll?_cons rfl hmax).trans ?_
  refine (Record.setAll?_cons rfl (congrArg (Option.map _) (word?_long s.debounceMs))).trans ?_
  refine (Record.setAll?_cons rfl (congrArg (Option.map _) (word?_long s.qrThreshold))).trans ?_
  refine (Record.setAll?_cons rfl rfl).trans ?_
  refine (Record.setAll?_cons rfl rfl).trans ?_
  refine (Record.setAll?_cons rfl (congrArg (Option.map _) (word?_long s.rateTtlSecs))).trans ?_
  refine (Record.setAll?_cons rfl (congrArg (Option.map _) (word?_long s.rateGraceSecs))).trans ?_
  refine (Record.setAll?_cons rfl (congrArg (Option.map _) (named?_webSearch s.webSearch))).trans ?_
  refine (Record.setAll?_cons rfl rfl).trans ?_
  refine (Record.setAll?_cons rfl (congrArg (Option.map _) (list?_texts s.fileRoots))).trans ?_
  refine (Record.setAll?_cons rfl (congrArg (Option.map _) (word?_long s.fileScanLimit))).trans ?_
  refine (Record.setAll?_cons rfl (congrArg (Option.map _) (word?_long s.fileScanDepth))).trans ?_
  refine (Record.setAll?_cons rfl (congrArg (Option.map _) (list?_texts s.appRoots))).trans ?_
  refine (Record.setAll?_cons rfl (congrArg (Option.map _) (word?_long s.appScanLimit))).trans ?_
  refine (Record.setAll?_cons rfl rfl).trans ?_
  refine (Record.setAll?_cons rfl (congrArg (Option.map _)
    (list?_texts s.sensitivePatterns))).trans ?_
  refine (Record.setAll?_cons rfl (congrArg (Option.map _) (word?_long s.recentLimit))).trans ?_
  refine (Record.setAll?_cons rfl (congrArg (Option.map _) hgroups)).trans ?_
  refine (Record.setAll?_cons rfl (congrArg (Option.map _) hcommands)).trans ?_
  refine (Record.setAll?_cons rfl rfl).trans ?_
  rfl

end Launcher.Settings
