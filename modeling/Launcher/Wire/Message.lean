import Launcher.Command.BuiltIn
import Launcher.Search.Board

namespace Launcher

/-!
# Requests and responses

* `Request` — what a client asks for.
* `View` — what the query box shows after a request, or what was done.
* `Response` — a view, or an error with its code.
* `View.ofOutcome`, `HitView.ofHit` — how results are shown to a client.
-/

/-- What a client asks for. -/
inductive Request where
  /-- Searches at once. -/
  | search (query : String)
  /-- Searches after the debounce time. -/
  | type (query : String)
  | tab (index : Option Nat)
  | escape
  | backspace
  | param (text : String)
  | execute (index : Option Nat)
  | clipboard (text : String)
deriving Repr, DecidableEq

/-- A result as a client sees it. -/
structure HitView where
  title : String
  subtitle : String
  kind : HitKind
  action : Action
  score : Float
  highlights : List Nat
  keyword : Option String
  acceptsParam : Bool
deriving Repr

/-- A group of results as a client sees it. -/
structure GroupView where
  label : String
  hits : List HitView
deriving Repr

/-- A notice with its wording. -/
structure NoticeView where
  notice : Notice
  message : String
deriving Repr, DecidableEq

/-- The results of a search as a client sees them. -/
structure ResultsView where
  ticket : Nat
  query : String
  groups : List GroupView
  notices : List NoticeView
deriving Repr

/-- What the query box shows after a request, or what was done. -/
inductive View where
  | results (results : ResultsView)
  | command (hit : HitView)
  | submitted (ticket : Nat)
  | superseded
  | unchanged
  | executed (action : Action) (builtIn : Option String)
  | clipboard (captured : Bool)
deriving Repr

/-- The kinds of error. -/
inductive ErrorCode where
  | invalidJson
  | invalidRequest
  | nothingSelected
  | launch
  | store
  | config
deriving Repr, DecidableEq

/-- The answer to a request. -/
inductive Response where
  | ok (view : View)
  | error (code : ErrorCode) (message : String)
deriving Repr

/-! ### What a client sees -/

/-- A result as a client sees it. -/
def HitView.ofHit (hit : Hit) : HitView :=
  ⟨hit.title, hit.subtitle, hit.kind, hit.action, hit.score, hit.highlights, hit.keyword,
    hit.acceptsParam⟩

/-- A group of results as a client sees it. -/
def GroupView.ofGroup (group : HitGroup) : GroupView :=
  ⟨group.label, group.hits.map .ofHit⟩

/-- A notice with its wording. -/
def NoticeView.ofNotice (notice : Notice) : NoticeView :=
  ⟨notice, notice.message⟩

/-- An outcome as a client sees it. -/
def ResultsView.ofOutcome (o : Outcome) : ResultsView :=
  ⟨o.ticket, o.query, o.ranking.groups.map .ofGroup, o.notices.map .ofNotice⟩

/-- The view of an outcome. -/
def View.ofOutcome (o : Outcome) : View :=
  .results (.ofOutcome o)

/-- The actions of the results, group by group. -/
def ResultsView.actions (r : ResultsView) : List Action :=
  r.groups.flatMap fun g => g.hits.map (·.action)

end Launcher
