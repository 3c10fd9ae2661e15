import Launcher.Json.Fields
import Launcher.Wire.Encode

namespace Launcher

/-!
# Messages from text

* `Tagged` — the kind of a variant and its content, in either order.
* `Request.ofDocument?`, `Response.ofDocument?` — the message that a document stands for.
* `Request.parse?`, `Response.parse?` — the message on a line.

Members that are not known are passed over. A content that comes before its kind is kept until the
kind is known, and has to be sound and not too deep as a whole.
-/

open Json

/-! ### Variants -/

/-- The name of a variant and its content. -/
structure Tagged where
  kind : String
  content : Option Document
  /-- The content came first. -/
  isLate : Bool

/-- The kinds of variant of which one is named, and how strictly. Only where reading is less strict,
the number of a kind may stand for its name at the head of an array. -/
structure Kinds where
  names : List String
  isLenient : Bool := true

/-- The name of a kind at the head of an array. -/
def Kinds.head? (kinds : Kinds) : Document → Option String
  | .string text => text
  | d => if kinds.isLenient then do kinds.names[← d.nat?]? else none

/-- The kind of a variant and its content: members of an object in either order, or an array of
both. -/
def Kinds.tagged? (kinds : Kinds) (tag content : String) : Document → Option Tagged
  | .array [kind, d] => do return ⟨← kinds.head? kind, some d, false⟩
  | .object members => do
    let fields : Fields ← keyedMembers? members
    let kind ← (← ← fields.find? tag).name? kinds.isLenient
    let d ← fields.find? content
    let first := (fields.map (·.1)).find? fun name => name == tag || name == content
    return ⟨kind, d, first == some content⟩
  | _ => none

/-- A variant without content, which may also be null. -/
def bare? {α : Type} (content : Option Document) (x : α) : Option α :=
  match content with
  | none | some .null => some x
  | _ => none

/-! ### Requests -/

/-- The text of a request that holds nothing else. -/
def textMember? (name : String) (content : Option Document) : Option String := do
  let fields ← membersOf? [name] 0 (← content)
  fields.get? name Document.text?

/-- The choice of a result by its position. -/
def selection? (content : Option Document) : Option (Option Nat) := do
  let fields ← membersOf? ["index"] 1 (← content)
  fields.getOptional? "index" Document.nat?

/-- A content that came before its kind is sound, and not too deep for a member of an object. -/
def Tagged.isReadable (t : Tagged) : Bool :=
  !t.isLate || t.content.all fun d => d.isSound && d.depth < depthLimit

/-- The kinds of request. -/
def requestKinds : Kinds where
  names := ["search", "type", "tab", "escape", "backspace", "param", "execute", "clipboard"]
  isLenient := false

/-- The request that a document stands for. -/
def Request.ofDocument? (d : Document) : Option Request := do
  let t ← requestKinds.tagged? "kind" "payload" d
  if !t.isReadable then none
  match t.kind with
  | "search" => (textMember? "query" t.content).map .search
  | "type" => (textMember? "query" t.content).map .type
  | "tab" => (selection? t.content).map .tab
  | "escape" => bare? t.content .escape
  | "backspace" => bare? t.content .backspace
  | "param" => (textMember? "param" t.content).map .param
  | "execute" => (selection? t.content).map .execute
  | "clipboard" => (textMember? "text" t.content).map .clipboard
  | _ => none

/-- The request on a line. -/
def Request.parse? (line : String) : Option Request := do
  Request.ofDocument? (← document? line.toList)

/-! ### Responses

A response is read less strictly as a whole, as its status may come after anything else. -/

/-- The kinds of action. -/
def actionKinds : Kinds where
  names := Action.kinds.map (·.1)

/-- An action. -/
def Action.ofDocument? (d : Document) : Option Action := do
  let t ← actionKinds.tagged? "action" "target" d
  let make ← Action.kinds.lookup t.kind
  return make (← (← t.content).text?)

/-- A result. -/
def HitView.ofDocument? (d : Document) : Option HitView := do
  let fields ← membersOf? ["title", "subtitle", "kind", "action", "score", "matched_indices",
    "keyword", "accepts_param"] 0 d
  return {
    title := ← fields.get? "title" Document.text?
    subtitle := ← fields.get? "subtitle" Document.text?
    kind := ← fields.get? "kind" (Document.word? HitKind.words)
    action := ← fields.get? "action" Action.ofDocument?
    score := ← fields.get? "score" Document.float?
    highlights := ← fields.get? "matched_indices" (Document.list? Document.nat?)
    keyword := ← fields.getOptional? "keyword" Document.text?
    acceptsParam := ← fields.get? "accepts_param" Document.bool? }

/-- A group of results. -/
def GroupView.ofDocument? (d : Document) : Option GroupView := do
  let fields ← membersOf? ["label", "results"] 0 d
  return ⟨← fields.get? "label" Document.text?,
    ← fields.get? "results" (Document.list? HitView.ofDocument?)⟩

/-- The kinds of notice. -/
def noticeKinds : Kinds where
  names := ["currency_configuration_missing", "currency_unavailable"]

/-- A notice. -/
def Notice.ofDocument? (d : Document) : Option Notice := do
  let t ← noticeKinds.tagged? "kind" "detail" d
  match t.kind with
  | "currency_configuration_missing" => bare? t.content .ratesNotConfigured
  | "currency_unavailable" => return .ratesUnavailable (← (← t.content).text?)
  | _ => none

/-- A notice with its wording. -/
def NoticeView.ofDocument? (d : Document) : Option NoticeView := do
  let fields ← membersOf? ["warning", "message"] 0 d
  return ⟨← fields.get? "warning" Notice.ofDocument?, ← fields.get? "message" Document.text?⟩

/-- The results of a search. -/
def ResultsView.ofDocument? (d : Document) : Option ResultsView := do
  let fields ← membersOf? ["query_id", "query", "groups", "warnings"] 0 d
  return ⟨← fields.get? "query_id" Document.nat?, ← fields.get? "query" Document.text?,
    ← fields.get? "groups" (Document.list? GroupView.ofDocument?),
    ← fields.get? "warnings" (Document.list? NoticeView.ofDocument?)⟩

/-- The kinds of view. -/
def viewKinds : Kinds where
  names := ["results", "command", "submitted", "superseded", "unchanged", "executed", "clipboard"]

/-- A view. -/
def View.ofDocument? (d : Document) : Option View := do
  let t ← viewKinds.tagged? "kind" "payload" d
  match t.kind with
  | "results" => (ResultsView.ofDocument? (← t.content)).map .results
  | "command" =>
    let fields ← membersOf? ["result"] 0 (← t.content)
    (fields.get? "result" HitView.ofDocument?).map .command
  | "submitted" =>
    let fields ← membersOf? ["query_id"] 0 (← t.content)
    (fields.get? "query_id" Document.nat?).map .submitted
  | "superseded" => bare? t.content .superseded
  | "unchanged" => bare? t.content .unchanged
  | "executed" =>
    let fields ← membersOf? ["action", "built_in"] 0 (← t.content)
    return .executed (← fields.get? "action" Action.ofDocument?)
      (← fields.getOptional? "built_in" Document.text?)
  | "clipboard" =>
    let fields ← membersOf? ["captured"] 0 (← t.content)
    (fields.get? "captured" Document.bool?).map .clipboard
  | _ => none

/-- The status of a response and its other members. In an array the status comes first, and then the
one member that belongs to it. -/
def statusOf? : Document → Option (String × (String → Option Document))
  | .object members => do
    let fields : Fields ← keyedMembers? members
    let status ← (← ← fields.find? "status").text?
    return (status, fun name => do ← fields.find? name)
  | .array [status, d] => do return (← status.text?, fun _ => some d)
  | _ => none

/-- An error. -/
def errorOf? (d : Document) : Option Response := do
  let fields ← membersOf? ["code", "message"] 0 d
  return .error (← fields.get? "code" (Document.word? ErrorCode.words))
    (← fields.get? "message" Document.text?)

/-- The response that a document stands for. -/
def Response.ofDocument? (d : Document) : Option Response := do
  if !d.isSound || depthLimit < d.depth then none
  let (status, member?) ← statusOf? d
  match status with
  | "ok" => (View.ofDocument? (← member? "response")).map .ok
  | "err" => errorOf? (← member? "error")
  | _ => none

/-- The response on a line. -/
def Response.parse? (line : String) : Option Response := do
  Response.ofDocument? (← document? line.toList)

end Launcher
