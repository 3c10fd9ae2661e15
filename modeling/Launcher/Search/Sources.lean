import Launcher.Clipboard
import Launcher.Currency.Requests
import Launcher.Discovery.Source
import Launcher.Interpret
import Launcher.Match.Candidates
import Launcher.Ranking

namespace Launcher

/-!
# What a search draws from

* `Provider` — a source of items, with a memory or without.
* `Sources` — settings, rates, providers, files, launch history and clipboard.
* `Sources.discover` — the items of all providers.
* `Sources.ranking` — the results for a query, once its items and the answer of its interpreter are
  known.
-/

/-- A source of items, with a memory or without. -/
inductive Provider where
  | plain (source : Source)
  | cached (source : CachedSource)
deriving Repr

namespace Provider

/-- The items of a provider, and the provider as it is left. -/
def discover (w : World) : Provider → Except SourceFault (List Item) × Provider
  | plain source => (source.discover w).map id plain
  | cached source => (source.discover w).map id cached

/-- Forgets what the provider remembers. -/
def forget : Provider → Provider
  | plain source => plain source
  | cached source => cached source.forget

end Provider

/-- What a search draws from. -/
structure Sources where
  settings : Settings
  desk : Currency.Desk
  providers : List Provider := []
  world : World := {}
  clipboard : Option Clipboard := none

namespace Sources

/-- The items of some providers; a provider that fails has none. -/
def discoverAll (w : World) : List Provider → List Item × List Provider
  | [] => ([], [])
  | p :: ps =>
    let (answer, p) := p.discover w
    let (items, ps) := discoverAll w ps
    (answer.toOption.getD [] ++ items, p :: ps)

/-- The items of all providers. -/
def discover (s : Sources) : List Item × Sources :=
  let (items, providers) := discoverAll s.world s.providers
  (items, { s with providers })

/-- The results for the clipboard, if it takes part in searches. -/
def clipboardHits (s : Sources) (query : String) (time : Int) : List Hit :=
  match s.clipboard with
  | some c => if s.settings.clipboardEnabled then c.search query time else []
  | none => []

/-- The candidates for a query, by where they come from. -/
def streams (s : Sources) (query : String) (hits : List Hit) (items : List Item) (time : Int) :
    List (List Hit) :=
  [hits, matchCommands s.settings query, matchBuiltIns query BuiltIn.all, matchItems query items,
    s.clipboardHits query time]

/-- The results for a query. -/
def ranking (s : Sources) (query : String) (hits : List Hit) (items : List Item) (time : Int) :
    Ranking :=
  Ranking.ofStreams (s.streams query hits items time) s.settings.maxResults.toNat

end Sources

end Launcher
