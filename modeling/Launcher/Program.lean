import Launcher.CommandLine
import Launcher.Log
import Launcher.Service.Serve
import Launcher.Service.Setup
import Launcher.Settings.Store

namespace Launcher

/-!
# The program

* `Start.prepare` — what is done before the first request: log, settings and service.
* `Report` — what a run leaves behind: responses, lines on the error stream, files and an exit code.
* `run` — a run of the program on arguments and an input that is known as a whole.
-/

/-- What a run starts from. -/
structure Start where
  environment : Environment
  files : Files
  /-- Seconds since the beginning of 1970. -/
  time : Int
  script : Currency.Script := ⟨[]⟩

/-- What a run leaves behind. -/
structure Report where
  responses : List Response := []
  errors : List String := []
  /-- Why the program stopped, if its settings were the cause. -/
  fault : Option Settings.StoreFault := none
  files : Files
  exitCode : UInt32 := 0

/-! ### Messages -/

/-- What messages of the program begin with. -/
def programTag : String := "[quickbar-core] "

/-- How the program is called. -/
def usage : String := "usage: quickbar-core [--config <path>] [--query <text>]"

/-- The wording of a fault of the settings file. -/
def Settings.StoreFault.message : Settings.StoreFault → String
  | .unreadable path => s!"failed to read config '{path}'"
  | .unwritable path => s!"failed to write config '{path}'"
  | .malformed path => s!"failed to parse config '{path}'"
  | .invalid defect => s!"invalid config: {defect.message}"

/-- The line that tells why the program stops. -/
def failureLine (fault : Settings.StoreFault) : String :=
  s!"{programTag}runtime failed: config error: {fault.message}"

/-! ### The beginning of a run -/

namespace Start

/-- Makes the log ready. Without a log the program goes on. -/
def openLog (s : Start) : List String × Start :=
  match Log.prepare s.environment s.files s.time.toNat with
  | some files => ([], { s with files })
  | none => ([programTag ++ "logging disabled"], s)

/-- The settings; where there are none yet, the defaults are written. -/
def openSettings (s : Start) (path : Option String) :
    Except Settings.StoreFault (Settings × Start) := do
  let path := path.getD (Settings.defaults s.environment).path
  let settings ← Settings.load s.environment s.files path
  if s.files.exists? path then return (settings, s)
  let files ← Settings.save s.files settings
  return (settings, { s with files })

/-- The service of the program itself. -/
def openService (s : Start) (settings : Settings) : Except Settings.StoreFault Service :=
  let setup : Setup := {
    settings, environment := s.environment, files := s.files, script := s.script, sink := .checking
    wallClock := s.time }
  setup.withRuntime.build.mapError .invalid

/-- Log, settings and service, one after the other. -/
def prepare (s : Start) (path : Option String) :
    List String × Start × Except Settings.StoreFault Service :=
  let (errors, s) := s.openLog
  match s.openSettings path with
  | .error fault => (errors, s, .error fault)
  | .ok (settings, s) => (errors, s, s.openService settings)

end Start

/-! ### Runs -/

/-- Answers one query, or else the lines of an input. -/
def Service.answerAll (service : Service) (query : Option String) (input : String) :
    Option (List Response) × Service :=
  match query with
  | some query => service.handleAll [.search query]
  | none =>
    let v := Serving.run service true [.text input]
    (if v.isBroken then none else some v.responses, v.service)

/-- A run of the program. -/
def run (start : Start) (arguments : List String) (input : String) : Report :=
  match Options.parse arguments with
  | .error fault =>
    { errors := [programTag ++ fault.message, usage], files := start.files, exitCode := 2 }
  | .ok options =>
    match start.prepare options.settingsPath with
    | (errors, s, .error fault) =>
      { errors := errors ++ [failureLine fault], fault := some fault, files := s.files
        exitCode := 1 }
    | (errors, _, .ok service) =>
      let (responses, service) := service.answerAll options.query input
      { responses := responses.getD [], errors, files := service.files
        exitCode := if responses.isSome then 0 else 101 }

end Launcher
