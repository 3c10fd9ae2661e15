import Launcher.HistoryFile
import Launcher.Launch
import Launcher.QueryBox
import Launcher.Search.Timeline
import Launcher.Settings.Validity
import Launcher.Wire.Message

namespace Launcher

/-!
# The service

* `Service` — the search engine, the query box, and what takes the actions in.
* `Service.begin` — what a request does at once: it is answered, or a search begins.
* `Service.execute` — hands the action of a result, or of the command in the box, to the sink.
* `Service.finish` — requests that were begun together, from there to their answers.
-/

/-- Where copied texts are kept. -/
inductive Capturing where
  | off
  /-- In the clipboard that is searched. -/
  | searched
  /-- In a clipboard that is not searched. -/
  | apart (clipboard : Clipboard)
deriving Repr

/-- The search engine, the query box, and what takes the actions in. -/
structure Service where
  engine : Engine
  box : QueryBox := {}
  sink : Sink := .recording []
  environment : Environment := {}
  /-- Launches of items are counted. -/
  keepsHistory : Bool := false
  capturing : Capturing := .off

/-- What was executed: an action, and the built-in command behind it if there is one. -/
structure Executed where
  action : Action
  builtIn : Option String := none
deriving Repr, DecidableEq

/-- Why nothing was executed. -/
inductive ExecuteFault where
  | nothingSelected
  | noResult (index : Nat)
  | launch (fault : LaunchFault)
deriving Repr, DecidableEq

/-- The wording of a fault. -/
def ExecuteFault.message : ExecuteFault → String
  | .nothingSelected => "nothing to execute"
  | .noResult index => s!"invalid request: no result at index {index}"
  | .launch fault => s!"launch error: {fault.message}"

/-- The code of a fault. -/
def ExecuteFault.code : ExecuteFault → ErrorCode
  | .nothingSelected => .nothingSelected
  | .noResult _ => .invalidRequest
  | .launch _ => .launch

/-- What a request has come to. -/
inductive Handling where
  | answered (response : Response)
  | searching (search : Search)
deriving Repr

namespace Service

/-! ### Parts -/

/-- What searches draw from. -/
def sources (s : Service) : Sources :=
  s.engine.sources

/-- The settings. -/
def settings (s : Service) : Settings :=
  s.sources.settings

/-- The launch history. -/
def history (s : Service) : History :=
  s.sources.world.history

/-- The files that there are. -/
def files (s : Service) : Files :=
  s.sources.world.files

/-- The service with other sources for its searches. -/
def withSources (s : Service) (sources : Sources) : Service :=
  { s with engine := { s.engine with sources } }

/-- The outcome that is shown. -/
def shown (s : Service) : Option Outcome :=
  s.engine.board.shown

/-- The result that is shown at a position; the first one if there is no position. -/
def selected? (s : Service) (index : Option Nat) : Option Hit :=
  s.shown.bind fun o => o.ranking.displayed[index.getD 0]?

/-! ### The query box -/

/-- The view of a command in the query box. -/
def commandView (hit : Hit) : Response :=
  .ok (.command (.ofHit hit))

/-- Carries out what an event of the query box asks for, with a search at once. -/
def apply (s : Service) : QueryBox.Reply → Handling × Service
  | .search query =>
    let (search, engine) := s.engine.search query
    (.searching search, { s with engine })
  | .render hit => (.answered (commandView hit), s)
  | .execute _ | .unchanged => (.answered (.ok .unchanged), s)

/-- The text was changed, and is searched for at once. -/
def search (s : Service) (text : String) : Handling × Service :=
  let (reply, box) := s.box.type text
  { s with box }.apply reply

/-- The text was changed, and is searched for after the debounce time. -/
def type (s : Service) (text : String) : Response × Service :=
  let (reply, box) := s.box.type text
  let s := { s with box }
  match reply with
  | .search query =>
    let (ticket, engine) := s.engine.submit query
    (.ok (.submitted ticket), { s with engine })
  | .render hit => (commandView hit, s)
  | .execute _ | .unchanged => (.ok .unchanged, s)

/-- What an event shows that begins no search. -/
def shownReply : QueryBox.Reply → Response
  | .render hit => commandView hit
  | _ => .ok .unchanged

/-- The tab key, with a result selected. -/
def tab (s : Service) (index : Option Nat) : Response × Service :=
  let (reply, box) := s.box.tab ((s.selected? index).bind (·.command))
  (shownReply reply, { s with box })

/-- The parameter was changed. -/
def setParam (s : Service) (param : String) : Response × Service :=
  let (reply, box) := s.box.setParam param
  (shownReply reply, { s with box })

/-- The escape key. -/
def escape (s : Service) : Handling × Service :=
  let (reply, box) := s.box.escape
  { s with box }.apply reply

/-- The backspace key. -/
def backspace (s : Service) : Handling × Service :=
  let (reply, box) := s.box.backspace
  { s with box }.apply reply

/-! ### Execution -/

/-- Hands an action to the sink. -/
def launch (s : Service) (action : Action) : Except ExecuteFault Unit × Service :=
  let (result, sink) := s.sink.take s.files action
  (result.mapError .launch, { s with sink })

/-- Counts the launch of an item. -/
def recordLaunch (s : Service) (item : Item) : Service :=
  if s.keepsHistory then
    let sources := s.sources
    let history := sources.world.history.record item s.engine.wallClock
    s.withSources { sources with world := { sources.world with history } }
  else s

/-- Forgets all copied texts. -/
def clearClipboard (s : Service) : Service :=
  let sources := s.sources
  s.withSources { sources with clipboard := sources.clipboard.map (·.clear) }

/-- Forgets the items that scans have found. -/
def rescan (s : Service) : Service :=
  let sources := s.sources
  s.withSources { sources with providers := sources.providers.map (·.forget) }

/-- Carries out a built-in command. Two of them open a place, which the sink does. -/
def runBuiltIn (s : Service) (b : BuiltIn) : Except ExecuteFault Executed × Service :=
  let opening := fun (action : Action) =>
    let (result, s) := s.launch action
    (result.map fun _ => { action, builtIn := some b.id }, s)
  let done : Except ExecuteFault Executed := .ok { action := .builtIn b.id, builtIn := some b.id }
  match b with
  | .openLogs => opening (.openDirectory s.environment.logDirectory)
  | .openSettings => opening (.openFile s.settings.path)
  | .clearClipboard => (done, s.clearClipboard)
  | .rescanFiles => (done, s.rescan)

/-- Carries out an action. If it is that of a selected result, the launch of its item is counted. -/
def perform (s : Service) (action : Action) (launched : Option Item) :
    Except ExecuteFault Executed × Service :=
  match action with
  | .builtIn id =>
    match BuiltIn.ofId? id with
    | some b => s.runBuiltIn b
    | none => (.error (.launch (.unknownAction id)), s)
  | action =>
    match s.launch action with
    | (.ok (), s) => (.ok { action }, launched.elim s s.recordLaunch)
    | (.error fault, s) => (.error fault, s)

/-- The enter key: carries out the action of the command in the box, or else of the result at a
position. -/
def execute (s : Service) (index : Option Nat) : Except ExecuteFault Executed × Service :=
  let selected := s.selected? index
  match index, selected, s.box.isParamMode with
  | some i, none, false => (.error (.noResult i), s)
  | _, _, isParamMode =>
    let (reply, box) := s.box.enter selected
    match reply with
    | .execute action =>
      { s with box }.perform action (if isParamMode then none else selected.bind (·.item?))
    | _ => (.error .nothingSelected, s)

/-- The answer to a request for execution. -/
def executeResponse : Except ExecuteFault Executed → Response
  | .ok e => .ok (.executed e.action e.builtIn)
  | .error fault => .error fault.code fault.message

/-! ### The clipboard -/

/-- Takes a copied text in, if copied texts are kept. -/
def capture (s : Service) (text : String) : Bool × Service :=
  match s.capturing, s.sources.clipboard with
  | .searched, some c =>
    let (isTaken, c) := c.capture text s.engine.wallClock
    (isTaken, s.withSources { s.sources with clipboard := some c })
  | .apart c, _ =>
    let (isTaken, c) := c.capture text s.engine.wallClock
    (isTaken, { s with capturing := .apart c })
  | _, _ => (false, s)

/-! ### Requests -/

/-- What a request does at once. -/
def begin (s : Service) : Request → Handling × Service
  | .search query => s.search query
  | .type query => (s.type query).map .answered id
  | .tab index => (s.tab index).map .answered id
  | .escape => s.escape
  | .backspace => s.backspace
  | .param text => (s.setParam text).map .answered id
  | .execute index => (s.execute index).map (fun r => .answered (executeResponse r)) id
  | .clipboard text => (s.capture text).map (fun b => .answered (.ok (.clipboard b))) id

/-- Begins requests in order. -/
def beginAll (s : Service) : List Request → List Handling × Service
  | [] => ([], s)
  | r :: rest =>
    let (handling, s) := s.begin r
    let (handlings, s) := s.beginAll rest
    (handling :: handlings, s)

/-- The answer to a search that has ended; none if it has broken off. -/
def searchResponse? : Search → Option Response
  | .published outcome => some (.ok (.ofOutcome outcome))
  | .superseded | .running _ => some (.ok .superseded)
  | .broken => none

/-- The searches among some requests. -/
def searchesOf : List Handling → List Search
  | [] => []
  | .answered _ :: rest => searchesOf rest
  | .searching s :: rest => s :: searchesOf rest

/-- The answers to requests, with the searches among them as they have ended. -/
def responsesOf? : List Handling → List Search → Option (List Response)
  | [], _ => some []
  | .answered r :: rest, searches => (responsesOf? rest searches).map (r :: ·)
  | .searching _ :: rest, s :: searches => do
    return (← searchResponse? s) :: (← responsesOf? rest searches)
  | .searching _ :: _, [] => none

/-- Goes on with requests that were begun together until all are answered; nothing if a search among
them has broken off. -/
def finish (s : Service) (handlings : List Handling) : Option (List Response) × Service :=
  let (searches, engine) := s.engine.finish (searchesOf handlings)
  (responsesOf? handlings searches, { s with engine })

/-- Answers requests that come together. -/
def handleAll (s : Service) (requests : List Request) : Option (List Response) × Service :=
  let (handlings, s) := s.beginAll requests
  s.finish handlings

/-- Answers a request. -/
def handle (s : Service) (request : Request) : Option Response × Service :=
  let (responses, s) := s.handleAll [request]
  (responses.bind (·.head?), s)

/-! ### Updates -/

/-- Lets some milliseconds pass, and takes the updates that were sent until then. -/
def sleep (s : Service) (ms : Nat) : List Response × Service :=
  let (updates, engine) := (s.engine.sleep ms).receive
  (updates.map fun o => .ok (.ofOutcome o), { s with engine })

end Service

end Launcher
