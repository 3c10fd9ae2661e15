import Launcher.Text.Split

namespace Launcher

/-!
# The command line

* `Options` — what can be asked for on the command line.
* `Options.parse` — reads arguments; of options that are given twice the last one counts.
-/

/-- What can be asked for on the command line. -/
structure Options where
  /-- Where the settings are kept. -/
  settingsPath : Option String := none
  /-- A query to be answered instead of requests. -/
  query : Option String := none
deriving Repr, DecidableEq

/-- What is wrong with a command line. -/
inductive UsageFault where
  | noPath
  | noQuery
  | unknown (argument : String)
deriving Repr, DecidableEq

/-- The wording of a fault. -/
def UsageFault.message : UsageFault → String
  | .noPath => "--config requires a path"
  | .noQuery => "--query requires a value"
  | .unknown argument => s!"unknown argument: {argument}"

namespace Options

/-- What follows `start` in an argument that begins with it. -/
def valueAfter? (start argument : String) : Option String :=
  (Text.stripStart? start.toList argument.toList).map String.ofList

/-- Reads an argument that holds both an option and its value. -/
def parseJoined (argument : String) (o : Options) : Except UsageFault Options :=
  match valueAfter? "--config=" argument, valueAfter? "--query=" argument with
  | some path, _ => .ok { o with settingsPath := some path }
  | none, some query => .ok { o with query := some query }
  | none, none => .error (.unknown argument)

/-- Reads arguments after some options were read. -/
def parseFrom (o : Options) : List String → Except UsageFault Options
  | [] => .ok o
  | argument :: rest =>
    if argument = "--config" then
      match rest with
      | [] => .error .noPath
      | path :: rest => parseFrom { o with settingsPath := some path } rest
    else if argument = "--query" then
      match rest with
      | [] => .error .noQuery
      | query :: rest => parseFrom { o with query := some query } rest
    else
      match parseJoined argument o with
      | .ok o => parseFrom o rest
      | .error fault => .error fault

/-- Reads the arguments of a command line. -/
def parse (arguments : List String) : Except UsageFault Options :=
  parseFrom {} arguments

end Options

end Launcher
