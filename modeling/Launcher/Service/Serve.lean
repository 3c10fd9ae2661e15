import Launcher.Service.Basic
import Launcher.Wire.Decode

namespace Launcher

/-!
# Serving lines

* `Service.handleLine` — the answer to a line.
* `Input` — texts that arrive, and times in between.
* `Serving.run` — all responses to an input, with the updates in between.

A line is answered before an update that is sent at the same time. At the end of the input nothing
is waited for.
-/

/-- What is answered to a line that is no request. The wording in which a reader of JSON reports
its faults is not kept: one text stands for all of them, under the code of the answer. -/
def notARequest : Response :=
  .error .invalidJson "malformed request"

/-- Answers a line; a line that is no request changes nothing. -/
def Service.handleLine (s : Service) (line : String) : Option Response × Service :=
  match Request.parse? line with
  | some request => s.handle request
  | none => (some notARequest, s)

/-- A part of an input. -/
inductive Input where
  | text (text : String)
  | pause (ms : Nat)
deriving Repr, DecidableEq

/-- A service that answers the lines of an input. -/
structure Serving where
  service : Service
  /-- The beginning of a line whose end has not arrived. -/
  line : List Char := []
  responses : List Response := []
  /-- Updates are passed on. -/
  hasUpdates : Bool := true
  /-- A search has broken off, and nothing is answered any more. -/
  isBroken : Bool := false

namespace Serving

/-- The line without the return character at its end. -/
def withoutReturn (line : List Char) : List Char :=
  if line.getLast? = some '\r' then line.dropLast else line

/-- Answers a line unless it is blank. -/
def answer (v : Serving) (line : List Char) : Serving :=
  if v.isBroken || Text.isBlankText line then v
  else
    match v.service.handleLine (String.ofList line) with
    | (some response, service) => { v with service, responses := v.responses ++ [response] }
    | (none, service) => { v with service, isBroken := true }

/-- Takes a character in; the end of a line has the line answered. -/
def feed (v : Serving) (c : Char) : Serving :=
  if c = '\n' then { v with line := [] }.answer (withoutReturn v.line)
  else { v with line := v.line ++ [c] }

/-- Passes on the updates that were sent in the course of some time. -/
def pause (v : Serving) (ms : Nat) : Serving :=
  if v.isBroken then v
  else
    let (updates, service) := v.service.sleep ms
    { v with service, responses := v.responses ++ (if v.hasUpdates then updates else []) }

/-- Takes a part of the input in. -/
def take (v : Serving) : Input → Serving
  | .text text => text.toList.foldl feed v
  | .pause ms => v.pause ms

/-- Takes the end of the input in: what has arrived of a last line is answered as well. -/
def close (v : Serving) : Serving :=
  { v with line := [] }.answer v.line

/-- Answers all lines of an input. -/
def run (service : Service) (hasUpdates : Bool) (input : List Input) : Serving :=
  (input.foldl take { service, hasUpdates : Serving }).close

end Serving

end Launcher
