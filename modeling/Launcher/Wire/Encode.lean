import Launcher.Json.Value
import Launcher.Wire.Message

namespace Launcher

/-!
# Messages as text

* `Request.toJson`, `Response.toJson` — a message as JSON.
* `Request.text`, `Response.text` — the one line on which a message is sent.

A variant is an object with the name of its kind and, if it has any, its content.
-/

open Json

/-! ### Variants -/

/-- A variant without content. -/
def bareVariant (tag name : String) : Value :=
  .object [(tag, .string name)]

/-- A variant with content. -/
def variant (tag content name : String) (value : Value) : Value :=
  .object [(tag, .string name), (content, value)]

/-- A number that is not negative. -/
def natJson (n : Nat) : Value :=
  .int n

/-- An action. -/
def Action.toJson (a : Action) : Value :=
  variant "action" "target" a.name (.string a.target)

/-! ### Requests -/

/-- A request with its content. -/
def requestJson (name : String) (content : Value) : Value :=
  variant "kind" "payload" name content

/-- The choice of a result by its position. -/
def selectionJson (index : Option Nat) : Value :=
  .object [("index", index.elim .null natJson)]

/-- A request as JSON. -/
def Request.toJson : Request → Value
  | .search query => requestJson "search" (.object [("query", .string query)])
  | .type query => requestJson "type" (.object [("query", .string query)])
  | .tab index => requestJson "tab" (selectionJson index)
  | .escape => bareVariant "kind" "escape"
  | .backspace => bareVariant "kind" "backspace"
  | .param text => requestJson "param" (.object [("param", .string text)])
  | .execute index => requestJson "execute" (selectionJson index)
  | .clipboard text => requestJson "clipboard" (.object [("text", .string text)])

/-! ### Responses -/

/-- A result; the keyword is left out if there is none. -/
def HitView.toJson (h : HitView) : Value :=
  .object ([("title", .string h.title), ("subtitle", .string h.subtitle),
    ("kind", .string h.kind.name), ("action", h.action.toJson), ("score", .float h.score),
    ("matched_indices", .array (h.highlights.map natJson))] ++
    (h.keyword.map fun k => ("keyword", .string k)).toList ++
    [("accepts_param", .bool h.acceptsParam)])

/-- A group of results. -/
def GroupView.toJson (g : GroupView) : Value :=
  .object [("label", .string g.label), ("results", .array (g.hits.map HitView.toJson))]

/-- A notice. -/
def Notice.toJson : Notice → Value
  | .ratesNotConfigured => bareVariant "kind" "currency_configuration_missing"
  | .ratesUnavailable reason => variant "kind" "detail" "currency_unavailable" (.string reason)

/-- A notice with its wording. -/
def NoticeView.toJson (n : NoticeView) : Value :=
  .object [("warning", n.notice.toJson), ("message", .string n.message)]

/-- The results of a search. -/
def ResultsView.toJson (r : ResultsView) : Value :=
  .object [("query_id", natJson r.ticket), ("query", .string r.query),
    ("groups", .array (r.groups.map GroupView.toJson)),
    ("warnings", .array (r.notices.map NoticeView.toJson))]

/-- A view. -/
def View.toJson : View → Value
  | .results r => requestJson "results" r.toJson
  | .command hit => requestJson "command" (.object [("result", hit.toJson)])
  | .submitted ticket => requestJson "submitted" (.object [("query_id", natJson ticket)])
  | .superseded => bareVariant "kind" "superseded"
  | .unchanged => bareVariant "kind" "unchanged"
  | .executed action builtIn =>
    requestJson "executed"
      (.object (("action", action.toJson) ::
        (builtIn.map fun id => ("built_in", Value.string id)).toList))
  | .clipboard captured => requestJson "clipboard" (.object [("captured", .bool captured)])

/-- The word for a kind of error. -/
def ErrorCode.name : ErrorCode → String
  | .invalidJson => "invalid_json"
  | .invalidRequest => "invalid_request"
  | .nothingSelected => "nothing_selected"
  | .launch => "launch"
  | .store => "store"
  | .config => "config"

/-- The kinds of error by their words. -/
def ErrorCode.words : List (String × ErrorCode) :=
  [("invalid_json", .invalidJson), ("invalid_request", .invalidRequest),
   ("nothing_selected", .nothingSelected), ("launch", .launch), ("store", .store),
   ("config", .config)]

/-- A response as JSON. -/
def Response.toJson : Response → Value
  | .ok view => variant "status" "response" "ok" view.toJson
  | .error code message =>
    variant "status" "error" "err"
      (.object [("code", .string code.name), ("message", .string message)])

/-! ### Lines -/

/-- The line on which a request is sent. -/
def Request.text (r : Request) : String :=
  r.toJson.compact

/-- The line on which a response is sent. -/
def Response.text (r : Response) : String :=
  r.toJson.compact

end Launcher
