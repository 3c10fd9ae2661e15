import Launcher.Service.Basic

namespace Launcher

/-!
# Setting up a service

* `Setup` — settings, sources and sink of a service to be.
* `Setup.withRuntime` — adds what the program itself searches: scans, launch history and clipboard.
* `Setup.build` — the service, if the settings are valid.
-/

/-- Settings, sources and sink of a service to be. -/
structure Setup where
  settings : Settings
  environment : Environment := {}
  files : Files := {}
  script : Currency.Script := ⟨[]⟩
  providers : List Provider := []
  history : History := {}
  keepsHistory : Bool := false
  clipboard : Option Clipboard := none
  capturing : Capturing := .off
  sink : Sink := .recording []
  wallClock : Int

namespace Setup

/-- Adds a source of items. -/
def withSource (s : Setup) (source : Source) : Setup :=
  { s with providers := s.providers ++ [.plain source] }

/-- The items of a history that is replaced stay among the sources as they are. -/
def settleHistory (h : History) : Provider → Provider
  | .plain (.recent limit) => .plain (.fixed "recent" (h.recent limit))
  | p => p

/-- Counts launches in a history, the items of which are searched. -/
def withHistory (s : Setup) (h : History) (limit : Nat) : Setup :=
  { s with
    providers := s.providers.map (settleHistory s.history) ++ [.plain (.recent limit)]
    history := h
    keepsHistory := true }

/-- Searches a clipboard. Copied texts go on being kept where they were. -/
def withSearchedClipboard (s : Setup) (c : Clipboard) : Setup :=
  let capturing := match s.capturing, s.clipboard with
    | .searched, some kept => .apart kept
    | capturing, _ => capturing
  { s with clipboard := some c, capturing }

/-- Searches a clipboard in which copied texts are kept. -/
def withClipboard (s : Setup) (c : Clipboard) : Setup :=
  { s with clipboard := some c, capturing := .searched }

/-- The scans that the settings ask for. -/
def scans (settings : Settings) : List Provider :=
  [.cached ⟨.scan (.applications settings.appRoots settings.appScanLimit.toNat), none⟩,
   .cached ⟨.scan (.files settings.fileRoots settings.fileScanLimit.toNat
     settings.fileScanDepth.toNat), none⟩]

/-- Counts launches in the file that the settings name; without it, they are not counted. -/
def withHistoryFile (s : Setup) : Setup :=
  match s.files.openHistory s.settings.historyPath with
  | .ok (h, files) => { s with files }.withHistory h s.settings.recentLimit.toNat
  | .error _ => s

/-- Adds what the program itself searches: scans, launch history, and the clipboard if it is
enabled. -/
def withRuntime (s : Setup) : Setup :=
  let s := { s with providers := s.providers ++ scans s.settings }.withHistoryFile
  if s.settings.clipboardEnabled then s.withClipboard { patterns := s.settings.sensitivePatterns }
  else s

/-- The service, if the settings are valid. -/
def build (s : Setup) : Except Settings.Defect Service :=
  (Settings.check s.settings).map fun _ => {
    engine := {
      sources := {
        settings := s.settings
        desk := { script := s.script }
        providers := s.providers
        world := { files := s.files, history := s.history }
        clipboard := s.clipboard }
      wallClock := s.wallClock }
    sink := s.sink
    environment := s.environment
    keepsHistory := s.keepsHistory
    capturing := s.capturing }

end Setup

end Launcher
