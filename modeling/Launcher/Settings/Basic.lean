import Launcher.Command.Basic

namespace Launcher

/-!
# Settings

* `Environment` — the variables from which the default places are taken.
* `Settings` — everything that can be configured.
* `Settings.defaults` — the settings of somebody who has configured nothing.
-/

/-- The providers of a web search. -/
inductive WebSearch where
  | duckduckgo
  | google
  | bing
  | brave
  | startpage
  | ecosia
  | yahoo
  | custom
deriving Repr, DecidableEq

/-- The providers by their words. -/
def WebSearch.words : List (String × WebSearch) :=
  [("duckduckgo", .duckduckgo), ("google", .google), ("bing", .bing), ("brave", .brave),
   ("startpage", .startpage), ("ecosia", .ecosia), ("yahoo", .yahoo), ("custom", .custom)]

/-- The word for a provider. -/
def WebSearch.name : WebSearch → String
  | .duckduckgo => "duckduckgo"
  | .google => "google"
  | .bing => "bing"
  | .brave => "brave"
  | .startpage => "startpage"
  | .ecosia => "ecosia"
  | .yahoo => "yahoo"
  | .custom => "custom"

/-- A named group of commands. -/
structure CommandGroup where
  id : String := ""
  name : String := ""
deriving Repr, DecidableEq

/-! ### Places -/

/-- The environment variables from which the default places are taken. -/
structure Environment where
  appData : Option String := none
  xdgDataHome : Option String := none
  home : Option String := none
  userProfile : Option String := none
  tmpDir : Option String := none
deriving Repr, DecidableEq

namespace Environment

/-- A path under a directory; an absolute path stands for itself. -/
def join (directory name : String) : String :=
  if name.startsWith "/" || directory.isEmpty then name
  else if directory.endsWith "/" then directory ++ name
  else directory ++ "/" ++ name

/-- The directory that holds everything that is kept between runs. -/
def dataDirectory (env : Environment) : String :=
  let root :=
    match env.appData, env.xdgDataHome, env.home, env.tmpDir with
    | some path, _, _, _ => path
    | none, some path, _, _ => path
    | none, none, some home, _ => join (join home ".local") "share"
    | none, none, none, some path => path
    | none, none, none, none => "/tmp"
  join root "quickbar"

/-- The directory of the log files. -/
def logDirectory (env : Environment) : String :=
  join env.dataDirectory "logs"

/-- The directories that are searched for files. -/
def fileRoots (env : Environment) : List String :=
  match env.userProfile, env.home with
  | some home, _ | none, some home => ["Documents", "Desktop", "Downloads"].map (join home)
  | none, none => []

end Environment

/-! ### Settings -/

/-- Everything that can be configured. -/
structure Settings where
  maxResults : UInt16
  debounceMs : UInt64
  /-- The number of characters from which on a text is offered as a QR code; zero for never. -/
  qrThreshold : UInt64
  currencyApiKey : String
  currencyBase : String
  rateTtlSecs : UInt64
  rateGraceSecs : UInt64
  webSearch : WebSearch
  webSearchTemplate : String
  fileRoots : List String
  fileScanLimit : UInt64
  fileScanDepth : UInt64
  appRoots : List String
  appScanLimit : UInt64
  clipboardEnabled : Bool
  sensitivePatterns : List String
  recentLimit : UInt64
  groups : List CommandGroup
  commands : List Command
  historyPath : String
  /-- Where the settings are kept; not one of the settings that are written there. -/
  path : String
deriving Repr, DecidableEq

namespace Settings

/-- The settings of somebody who has configured nothing. -/
def defaults (env : Environment) : Settings where
  maxResults := 20
  debounceMs := 40
  qrThreshold := 0
  currencyApiKey := ""
  currencyBase := "USD"
  rateTtlSecs := 3600
  rateGraceSecs := 86400
  webSearch := .duckduckgo
  webSearchTemplate := ""
  fileRoots := env.fileRoots
  fileScanLimit := 2000
  fileScanDepth := 4
  appRoots := ["/usr/share/applications"]
  appScanLimit := 1000
  clipboardEnabled := true
  sensitivePatterns := ["password", "secret", "token"]
  recentLimit := 50
  groups := []
  commands := []
  historyPath := Environment.join env.dataDirectory "history.sqlite3"
  path := Environment.join env.dataDirectory "config.json"

/-- The name of the first group with an identity. -/
def groupName? (s : Settings) (id : String) : Option String :=
  if id.isEmpty then none else (s.groups.find? (·.id == id)).map (·.name)

/-- The commands that take part in searches. -/
def enabledCommands (s : Settings) : List Command :=
  s.commands.filter (·.enabled)

end Settings

/-- The address of a web search for a text: the provider's, or the trimmed template of a custom one
with its placeholders replaced. A custom template needs a placeholder. -/
def Settings.webSearchUrl? (s : Settings) (query : String) : Option String :=
  let encoded := Text.Percent.encoded true (Text.trimmed query)
  match s.webSearch with
  | .duckduckgo => some ("https://duckduckgo.com/?q=" ++ encoded)
  | .google => some ("https://www.google.com/search?q=" ++ encoded)
  | .bing => some ("https://www.bing.com/search?q=" ++ encoded)
  | .brave => some ("https://search.brave.com/search?q=" ++ encoded)
  | .startpage => some ("https://www.startpage.com/sp/search?query=" ++ encoded)
  | .ecosia => some ("https://www.ecosia.org/search?q=" ++ encoded)
  | .yahoo => some ("https://search.yahoo.com/search?p=" ++ encoded)
  | .custom =>
    let template := Text.trimmed s.webSearchTemplate
    if Text.isInfix "\x7bquery\x7d".toList template.toList then
      some (Text.replaceAllIn "\x7bquery\x7d" encoded template)
    else none

end Launcher
