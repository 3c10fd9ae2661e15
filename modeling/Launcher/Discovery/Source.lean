import Launcher.Discovery.Scan

namespace Launcher

/-!
# Sources of items

* `Source` — where items come from: a fixed list, a scan, a script, or the launch history.
* `Source.discover` — its items, or why it has none.
* `Remembering` — the items of something that is asked for them are remembered until they are
  forgotten on purpose; `CachedSource` is this for a source.
-/

/-- Why a source has no items. -/
structure SourceFault where
  source : String
  reason : String
deriving Repr, DecidableEq

/-- The wording of a fault. -/
def SourceFault.message (f : SourceFault) : String :=
  s!"{f.source} provider failed: {f.reason}"

/-- Where items come from. -/
inductive Source where
  | fixed (name : String) (items : List Item)
  | scan (scan : Scan)
  /-- One answer for each request, the last of them again and again; a source without answers has no
  items. -/
  | script (name : String) (answers : List (Except String (List Item)))
  /-- The items that were launched last, as many as a limit allows. -/
  | recent (limit : Nat)
deriving Repr

/-- What a source looks at. -/
structure World where
  files : Files := {}
  history : History := {}

namespace Source

/-- The name of a source. -/
def name : Source → String
  | fixed name _ | script name _ => name
  | scan ⟨.applications, _, _, _⟩ => "app"
  | scan ⟨.files, _, _, _⟩ => "file"
  | recent _ => "recent"

/-- Two applications to try the launcher with. -/
def sampleApplications : Source :=
  fixed "app"
    [⟨"app-code", .application, "Visual Studio Code", "/usr/share/applications/code.desktop"⟩,
     ⟨"app-term", .application, "Terminal", "/usr/share/applications/terminal.desktop"⟩]

/-- Two files to try the launcher with. -/
def sampleFiles : Source :=
  fixed "file"
    [⟨"file-report", .file, "Q4_Report.xlsx", "/home/admin/Documents/Q4_Report.xlsx"⟩,
     ⟨"file-notes", .file, "Meeting Notes.txt", "/home/admin/Documents/Meeting Notes.txt"⟩]

/-- The items of a source, and the source as it is left. -/
def discover (w : World) : Source → Except SourceFault (List Item) × Source
  | fixed name items => (.ok items, fixed name items)
  | scan s => (.ok (s.items w.files), scan s)
  | recent limit => (.ok (w.history.recent limit), recent limit)
  | script name [] => (.ok [], script name [])
  | script name [answer] => (answer.mapError (⟨name, ·⟩), script name [answer])
  | script name (answer :: rest) => (answer.mapError (⟨name, ·⟩), script name rest)

end Source

/-! ### Remembered items -/

/-- Something that is asked for items, and the items that are remembered of it. -/
structure Remembering (σ : Type) where
  source : σ
  cached : Option (List Item) := none
deriving Repr

namespace Remembering

/-- The remembered items, or else those of the answer to one request, which are then remembered. -/
def ask {σ : Type} (request : σ → Except SourceFault (List Item) × σ) (m : Remembering σ) :
    Except SourceFault (List Item) × Remembering σ :=
  match m.cached with
  | some items => (.ok items, m)
  | none =>
    match request m.source with
    | (.ok items, source) => (.ok items, ⟨source, some items⟩)
    | (.error fault, source) => (.error fault, ⟨source, none⟩)

/-- Forgets the items. -/
def forget {σ : Type} (m : Remembering σ) : Remembering σ :=
  { m with cached := none }

end Remembering

/-- A source whose items are remembered. -/
abbrev CachedSource : Type := Remembering Source

namespace CachedSource

/-- The remembered items, or else those of the source, which are then remembered. -/
def discover (w : World) (c : CachedSource) : Except SourceFault (List Item) × CachedSource :=
  Remembering.ask (Source.discover w) c

/-- Forgets the items. -/
def forget (c : CachedSource) : CachedSource :=
  Remembering.forget c

end CachedSource

end Launcher
