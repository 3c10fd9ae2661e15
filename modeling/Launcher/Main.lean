import Launcher.Program

namespace Launcher

/-!
# The command

The program on the files, the clock and the streams of the system. What it answers is decided
elsewhere; here it is only read, written and waited for.
-/

namespace Main

/-! ### Files of the system -/

/-- The environment variables that the program looks at. -/
def readEnvironment : IO Environment := do
  return {
    appData := ← IO.getEnv "APPDATA"
    xdgDataHome := ← IO.getEnv "XDG_DATA_HOME"
    home := ← IO.getEnv "HOME"
    userProfile := ← IO.getEnv "USERPROFILE"
    tmpDir := ← IO.getEnv "TMPDIR" }

/-- The text of a file, if it can be read. -/
def readText? (path : String) : IO (Option String) :=
  try return some (← IO.FS.readFile path) catch _ => return none

/-- The visible entries of a folder down to a depth, the files without their content. -/
def readEntries (path : String) : (depth : Nat) → IO FileEntries
  | 0 => return []
  | depth + 1 => do
    let folder ← IO.FS.realPath path
    let mut entries : FileEntries := []
    for entry in ← folder.readDir do
      if !isHidden entry.fileName then
        let inner := Environment.join path entry.fileName
        let node ← if ← entry.path.isDir then pure (.folder (← readEntries inner depth))
          else pure (.text "")
        entries := entries ++ [(entry.fileName, node)]
    return entries

/-- Adds the visible entries of a folder, if it can be read. -/
def addFolder (fs : Files) (path : String) (depth : Nat) : IO Files := do
  try
    let entries ← readEntries path depth
    let some fs := fs.makeFolders? path | return fs
    let some place := fs.place? path | return fs
    return { fs with entries := Files.change (fun _ => entries) place fs.entries }
  catch _ => return fs

/-- Adds a text file, if it can be read. -/
def addText (fs : Files) (path : String) : IO Files := do
  match ← readText? path with
  | some text =>
    let some fs := fs.makeParent? path | return fs
    return (fs.write? path (.text text)).getD fs
  | none => return fs

/-- Writes a text file of the program's files into the system if it was not there before. -/
def writeNew (before after : Files) (path : String) : IO Unit := do
  if !before.exists? path then
    if let some text := after.text? path then
      let place := "/" ++ Text.joined "/" ((after.place? path).getD []).dropLast
      IO.FS.createDirAll place
      IO.FS.writeFile path text

/-! ### The log -/

/-- Archives a large log and removes the oldest archives. -/
def rotateLog (directory path : String) (time : Nat) : IO Unit := do
  if Log.sizeLimit ≤ (← (← IO.FS.realPath path).metadata).byteSize.toNat then
    IO.FS.rename path (Environment.join directory (Log.archiveName time))
    let entries ← (← IO.FS.realPath directory).readDir
    for name in Log.surplus (entries.toList.map (·.fileName)) do
      try IO.FS.removeFile (Environment.join directory name) catch _ => pure ()

/-- Notes the start of the program in the log and tells the time of that, in seconds since the
beginning of 1970. -/
def startLog (directory : String) : IO Int := do
  IO.FS.createDirAll directory
  let path := Environment.join directory Log.fileName
  IO.FS.withFile path .append fun log => log.putStrLn "quickbar core started"
  let time := (← (← IO.FS.realPath path).metadata).modified.sec
  rotateLog directory path time.toNat
  return time

/-! ### Requests -/

/-- Writes a response on a line of its own. -/
def respond (r : Response) : IO Unit := do
  let out ← IO.getStdout
  out.putStrLn r.text
  out.flush

/-- When the service began: on the clock that only counts milliseconds, and in seconds since the
beginning of 1970. -/
structure Beginning where
  ms : Nat
  time : Int

/-- Lets a service catch up with the clock, and passes on the updates that were sent. -/
def catchUp (b : Beginning) (service : Service) : IO Service := do
  let elapsed := (← IO.monoMsNow) - b.ms
  let (updates, service) := service.sleep (elapsed - service.engine.now)
  updates.forM respond
  return { service with engine := { service.engine with wallClock := b.time + elapsed / 1000 } }

/-- Answers lines as they arrive, and looks for updates in between. -/
partial def serve (b : Beginning) (service : Service) : IO Unit := do
  let input ← IO.getStdin
  let next ← IO.asTask input.getLine
  let rec wait (service : Service) : IO Service := do
    let service ← catchUp b service
    if ← IO.hasFinished next then return service
    IO.sleep 5
    wait service
  let service ← wait service
  let line ← IO.ofExcept next.get
  if line.isEmpty then return
  if Text.isBlankString line then serve b service
  else
    match service.handleLine line with
    | (some response, service) =>
      respond response
      serve b service
    | (none, _) => return

end Main

open Main in
/-- Runs the program. -/
def runMain (arguments : List String) : IO UInt32 := do
  match Options.parse arguments with
  | .error fault =>
    IO.eprintln (programTag ++ fault.message)
    IO.eprintln usage
    return 2
  | .ok options =>
    let environment ← readEnvironment
    let time ← try startLog environment.logDirectory catch error => do
      IO.eprintln s!"{programTag}logging disabled: {error}"
      pure 0
    let settingsPath := options.settingsPath.getD (Settings.defaults environment).path
    let here := Files.names (← IO.currentDir).toString
    let found : Files := { here }
    let found ← addText ((found.makeFoldersFrom? [] here).getD found) settingsPath
    match Start.openSettings { environment, files := found, time } (some settingsPath) with
    | .error fault =>
      IO.eprintln (failureLine fault)
      return 1
    | .ok (settings, s) =>
      writeNew found s.files settingsPath
      let depth := settings.fileScanDepth.toNat + 1
      let roots := settings.fileRoots ++ settings.appRoots
      let files ← roots.foldlM (addFolder · · (max 4 depth)) s.files
      match { s with files }.openService settings with
      | .error fault =>
        IO.eprintln (failureLine fault)
        return 1
      | .ok service =>
        match options.query with
        | some query =>
          let (responses, _) := service.handleAll [.search query]
          (responses.getD []).forM respond
        | none => serve ⟨← IO.monoMsNow, time⟩ service
        return 0

end Launcher

/-- Runs the program on its arguments. -/
def main (arguments : List String) : IO UInt32 :=
  Launcher.runMain arguments
