import Launcher.Proofs.Settings.Tokens

namespace Launcher.Settings.Json5

/-!
# The tree of a JSON text

* `node` — the tree that a value is read as.
* `Reads` — one step of reading tokens: what it gives, and what it leaves over.
* `readNode?_tokens` — the tokens of a value are read as its tree, whatever follows them.
* `node?_lines` — so the text of a value without doubles is read as the tree of the value, or it is
  refused because of a text in it.

The reader goes over the tokens by recursion over their number, and gives the rest back with a proof
that it is shorter. As for documents (`Launcher.Proofs.Json.Documents`), `Reads` hides that proof,
and there is one lemma for each way in which the reader goes on. The induction over the value puts
them together, with companions for the items of a list and the members of an object.

JSON5 allows a comma before the end of a list, so the reader looks for the end before each item.
That it finds none where a value begins is said by `skipMark?_tokens`. An object keeps all of its
members in their order, and the name of the first one, as `tableNode` has it; what a repeated name
means is left to those who read records.
-/

open Json (Value)

/-! ### Trees of values -/

mutual

/-- The tree that a value without doubles is read as. -/
def node : Value → Node
  | .null => .null
  | .bool b => .bool b
  | .int n => decimalNode [] (Decimal.digits n.natAbs)
  | .float _ => .broken
  | .string s => .text s
  | .array items => .list (itemNodes items)
  | .object members => tableNode (memberNodes members)

/-- The trees of items. -/
def itemNodes : List Value → List Node
  | [] => []
  | x :: xs => node x :: itemNodes xs

/-- The trees of members, with their names. -/
def memberNodes : List (String × Value) → List (String × Node)
  | [] => []
  | (k, x) :: xs => (k, node x) :: memberNodes xs

end

/-! ### Reading tokens -/

/-- Reading some tokens gives a result and leaves others over. -/
def Reads {α : Type} {s : List Token} (r : Read α s) (x : α) (rest : List Token) : Prop :=
  ∃ h, r = some (x, ⟨rest, h⟩)

/-- A list does not end where a value begins. -/
theorem skipMark?_tokens (v : Value) (hv : isCounting v = true) (rest : List Token) :
    skipMark? ']' (tokens v ++ rest) = none := by
  cases v with
  | float x => exact absurd hv Bool.false_ne_true
  | bool b => cases b <;> rfl
  | array items => cases items <;> rfl
  | object members =>
    cases members with
    | nil => rfl
    | cons member members =>
      obtain ⟨k, x⟩ := member
      rfl
  | null | int | string => rfl

section Steps

variable {s rest rest' : List Token} {item : Node} {items : List Node}
  {members : List (String × Node)}

/-- The end of a list leaves no items. -/
theorem readItems?_end : Reads (readItems? (.mark ']' :: rest)) [] rest := by
  refine ⟨Nat.lt_succ_self _, ?_⟩
  rw [readItems?]
  rfl

/-- The item before the end is the last one. -/
theorem readItems?_last (hskip : skipMark? ']' s = none)
    (hnode : Reads (readNode? s) item (.mark ']' :: rest)) :
    Reads (readItems? s) [item] rest := by
  obtain ⟨h, hnode⟩ := hnode
  refine ⟨Nat.lt_of_succ_lt h, ?_⟩
  rw [readItems?, hskip]
  simp only [hnode]
  rfl

/-- The items after a comma follow the one before it. -/
theorem readItems?_cons (hskip : skipMark? ']' s = none)
    (hnode : Reads (readNode? s) item (.mark ',' :: rest))
    (hitems : Reads (readItems? rest) items rest') :
    Reads (readItems? s) (item :: items) rest' := by
  obtain ⟨h, hnode⟩ := hnode
  obtain ⟨h', hitems⟩ := hitems
  refine ⟨Nat.lt_trans h' (Nat.lt_of_succ_lt h), ?_⟩
  rw [readItems?, hskip]
  simp only [hnode]
  show (readItems? rest).bind _ = _
  rw [hitems]
  rfl

/-- The end of an object leaves no members. -/
theorem readMembers?_end : Reads (readMembers? (.mark '}' :: rest)) [] rest := by
  refine ⟨Nat.lt_succ_self _, ?_⟩
  rw [readMembers?]
  rfl

/-- The member before the end is the last one. -/
theorem readMembers?_last (key : String)
    (hnode : Reads (readNode? s) item (.mark '}' :: rest)) :
    Reads (readMembers? (.text (some key) :: .mark ':' :: s)) [(key, item)] rest := by
  obtain ⟨h, hnode⟩ := hnode
  refine ⟨Nat.lt_succ_of_lt (Nat.lt_succ_of_lt (Nat.lt_of_succ_lt h)), ?_⟩
  rw [readMembers?]
  show (readNode? s).bind _ = _
  rw [hnode]
  rfl

/-- The members after a comma follow the one before it. -/
theorem readMembers?_cons (key : String)
    (hnode : Reads (readNode? s) item (.mark ',' :: rest))
    (hmembers : Reads (readMembers? rest) members rest') :
    Reads (readMembers? (.text (some key) :: .mark ':' :: s)) ((key, item) :: members) rest' := by
  obtain ⟨h, hnode⟩ := hnode
  obtain ⟨h', hmembers⟩ := hmembers
  have hlength : rest'.length < s.length := Nat.lt_trans h' (Nat.lt_of_succ_lt h)
  refine ⟨Nat.lt_succ_of_lt (Nat.lt_succ_of_lt hlength), ?_⟩
  rw [readMembers?]
  -- Behind the key and the colon the value is read, and then the other members.
  show (readNode? s).bind _ = _
  rw [hnode]
  show (readMembers? rest).bind _ = _
  rw [hmembers]
  rfl

/-- A number is a tree by itself. -/
theorem readNode?_number : Reads (readNode? (.number item :: rest)) item rest := by
  refine ⟨Nat.lt_succ_self _, ?_⟩
  rw [readNode?]

/-- So is a text. -/
theorem readNode?_text (value : String) :
    Reads (readNode? (.text (some value) :: rest)) (.text value) rest := by
  refine ⟨Nat.lt_succ_self _, ?_⟩
  rw [readNode?]
  rfl

/-- Items between brackets are a list. -/
theorem readNode?_list (h : Reads (readItems? s) items rest) :
    Reads (readNode? (.mark '[' :: s)) (.list items) rest := by
  obtain ⟨h, hitems⟩ := h
  refine ⟨Nat.lt_succ_of_lt h, ?_⟩
  rw [readNode?, hitems]
  rfl

/-- Members between braces are an object. -/
theorem readNode?_table (h : Reads (readMembers? s) members rest) :
    Reads (readNode? (.mark '{' :: s)) (tableNode members) rest := by
  obtain ⟨h, hmembers⟩ := h
  refine ⟨Nat.lt_succ_of_lt h, ?_⟩
  rw [readNode?, hmembers]
  rfl

/-- A word stands for what it names. -/
theorem readNode?_word {word : List Char} {n : Node} (h : wordNode? (word.map .char) = some n) :
    Reads (readNode? (wordToken word :: rest)) n rest := by
  refine ⟨Nat.lt_succ_self _, ?_⟩
  unfold wordToken
  rw [readNode?, h]
  rfl

end Steps

/-! ### Reading values -/

mutual

/-- The tokens of a value are read as its tree, whatever follows them. -/
theorem readNode?_tokens (v : Value) (hv : isCounting v = true) (rest : List Token) :
    Reads (readNode? (tokens v ++ rest)) (node v) rest := by
  match v, hv with
  | .null, _ => exact readNode?_word rfl
  | .bool true, _ => exact readNode?_word rfl
  | .bool false, _ => exact readNode?_word rfl
  | .int n, _ => exact readNode?_number
  | .string s, _ => exact readNode?_text s
  | .array [], _ => exact readNode?_list readItems?_end
  | .array (x :: xs), hv =>
    obtain ⟨hx, hxs⟩ := Bool.and_eq_true_iff.mp hv
    rw [tokens, List.cons_append, List.append_assoc]
    exact readNode?_list (readItems?_tokens x hx xs hxs rest)
  | .object [], _ => exact readNode?_table readMembers?_end
  | .object ((k, x) :: xs), hv =>
    obtain ⟨hx, hxs⟩ := Bool.and_eq_true_iff.mp hv
    rw [tokens, List.cons_append, List.cons_append, List.cons_append, List.append_assoc]
    exact readNode?_table (readMembers?_tokens k x hx xs hxs rest)
termination_by sizeOf v

/-- The tokens of items are read as their trees, up to the end of the list. -/
theorem readItems?_tokens (x : Value) (hx : isCounting x = true) (xs : List Value)
    (hxs : itemsCounting xs = true) (rest : List Token) :
    Reads (readItems? (tokens x ++ (itemsTokens xs ++ rest))) (itemNodes (x :: xs)) rest := by
  have hskip := skipMark?_tokens x hx (itemsTokens xs ++ rest)
  have hnode := readNode?_tokens x hx (itemsTokens xs ++ rest)
  match xs, hxs with
  | [], _ => exact readItems?_last hskip hnode
  | y :: ys, hxs =>
    obtain ⟨hy, hys⟩ := Bool.and_eq_true_iff.mp hxs
    rw [itemsTokens, List.cons_append, List.append_assoc] at hskip hnode ⊢
    exact readItems?_cons hskip hnode (readItems?_tokens y hy ys hys rest)
termination_by sizeOf x + sizeOf xs + 1

/-- The tokens of members are read as their trees, up to the end of the object. -/
theorem readMembers?_tokens (k : String) (x : Value) (hx : isCounting x = true)
    (xs : List (String × Value)) (hxs : membersCounting xs = true) (rest : List Token) :
    Reads (readMembers? (.text (some k) :: .mark ':' :: (tokens x ++ (membersTokens xs ++ rest))))
      (memberNodes ((k, x) :: xs)) rest := by
  have hnode := readNode?_tokens x hx (membersTokens xs ++ rest)
  match xs, hxs with
  | [], _ => exact readMembers?_last k hnode
  | (l, y) :: ys, hxs =>
    obtain ⟨hy, hys⟩ := Bool.and_eq_true_iff.mp hxs
    rw [membersTokens, List.cons_append, List.cons_append, List.cons_append,
      List.append_assoc] at hnode ⊢
    exact readMembers?_cons k hnode (readMembers?_tokens l y hy ys hys rest)
termination_by sizeOf x + sizeOf xs + 1

end

/-- **The text of a value** without doubles is read as the tree of the value, or it is refused
because of a text in it. -/
theorem node?_lines (v : Value) (hv : isCounting v = true) (depth : Nat) :
    node? (v.lines depth) = if isPlain v then some (node v) else none := by
  have htree := readNode?_tokens v hv []
  rw [List.append_nil] at htree
  obtain ⟨h, htree⟩ := htree
  unfold node?
  rw [tokenize?_lines v hv depth]
  cases isPlain v
  · rfl
  · simp [htree]

end Launcher.Settings.Json5
