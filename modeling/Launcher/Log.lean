import Launcher.Decimal.Digits
import Launcher.Files
import Launcher.Settings.Basic
import Launcher.Text.Utf8

namespace Launcher.Log

/-!
# The log files

* `isArchive`, `archiveName` — the names of earlier logs.
* `kept` — the names that are left of a folder when its oldest archives are removed.
* `rotate` — moves a log that has grown large out of the way.
* `prepare` — makes the folder of the log files ready.
-/

/-- The name of the log. -/
def fileName : String := "quickbar.log"

/-- What the name of an archive begins with. -/
def archiveStart : String := "quickbar-"

/-- What the name of an archive ends with. -/
def archiveEnd : String := ".log"

/-- The size in bytes from which on a log is archived. -/
def sizeLimit : Nat := 1000000

/-- The number of archives that are kept. -/
def archiveLimit : Nat := 5

/-- The name of an archive. -/
def isArchive (name : String) : Bool :=
  archiveStart.toList.isPrefixOf name.toList && archiveEnd.toList.isSuffixOf name.toList

/-- The name of the archive that was made at a time. -/
def archiveName (time : Nat) : String :=
  archiveStart ++ String.ofList (Decimal.digits time) ++ archiveEnd

/-! ### Removal of old archives -/

/-- The archives beyond the limit, those first whose names come first. -/
def surplus (names : List String) : List String :=
  let archives := (names.filter isArchive).mergeSort (fun a b => a ≤ b)
  archives.take (archives.length - archiveLimit)

/-- The names that are left when the archives beyond the limit are removed. -/
def kept (names : List String) : List String :=
  names.filter fun name => !(surplus names).contains name

/-- Removes the archives beyond the limit. -/
def prune (fs : Files) (place : Place) : Files :=
  let names := ((fs.entriesAt? place).getD []).map (·.1)
  (surplus names).foldl (fun fs name => fs.remove place name) fs

/-! ### Archiving -/

/-- Archives the log if it has grown large. -/
def rotate (fs : Files) (place : Place) (time : Nat) : Files :=
  match (fs.entriesAt? place).bind (·.lookup fileName) with
  | some (.text content) =>
    if Text.Utf8.size content.toList < sizeLimit then fs
    else prune ((fs.remove place fileName).put place (archiveName time) (.text content)) place
  | _ => fs

/-- Makes the folder of the log files ready and begins a log if there is none; nothing if that
cannot be done. -/
def prepare (env : Environment) (fs : Files) (time : Nat) : Option Files := do
  let directory := env.logDirectory
  let fs ← fs.makeFolders? directory
  let fs := rotate fs (← fs.place? directory) time
  let path := Environment.join directory fileName
  match fs.node? path with
  | some (.folder _) => none
  | some _ => some fs
  | none => fs.write? path (.text "")

end Launcher.Log
