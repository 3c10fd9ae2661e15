import Launcher.Files

namespace Launcher

/-!
# Launch histories in files

* `Files.openHistory` — the history in a file; a new one is begun if there is none.
* `Files.keepHistory` — writes a history back.
-/

/-- Why a history could not be opened. -/
inductive HistoryFault where
  /-- Its folder could not be made. -/
  | noFolder
  /-- There is something else in its place. -/
  | notAHistory
deriving Repr, DecidableEq

namespace Files

/-- The paths of histories that are kept in no file. -/
def passingPaths : List String := ["", ":memory:"]

/-- Opens the history in a file, whose folder is made if there is none. A history is begun where
there is no file or an empty one. -/
def openHistory (fs : Files) (path : String) : Except HistoryFault (History × Files) :=
  if passingPaths.contains path then .ok ({}, fs)
  else
    match fs.makeParent? path with
    | none => .error .noFolder
    | some fs =>
      match fs.node? path with
      | some (.history h) => .ok (h, fs)
      | some (.folder _) => .error .notAHistory
      | some (.text content) => if content.isEmpty then begin fs else .error .notAHistory
      | none => begin fs
where
  /-- Begins a history. -/
  begin (fs : Files) : Except HistoryFault (History × Files) :=
    match fs.write? path (.history {}) with
    | some fs => .ok ({}, fs)
    | none => .error .notAHistory

/-- Writes a history back into its file. -/
def keepHistory (fs : Files) (path : String) (h : History) : Files :=
  (fs.write? path (.history h)).getD fs

end Files

end Launcher
