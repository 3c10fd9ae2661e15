import Launcher.Proofs.Search.Provenance
import Launcher.Proofs.Service.Beginnings
import Launcher.Proofs.Service.Receptions
import Launcher.Service.Setup

namespace Launcher

/-!
# Services that can be met

Some facts hold of a service only because of how it came about: that a result which is shown was
found under the settings, for instance. They are stated for the services that can be met, which were
set up from settings that pass the checks, and have taken in any events since.

* `Service.IsReachable` — a service that was set up, and has been used since.
* `Reception.ShowsFound` — what is shown was found under the settings, and so will be what comes of
  searches and submissions.
* `Reception.ShowsFound.on`, `Reception.ShowsFound.run` — each event keeps this, so any events do.
* `Service.showsFound_of_build` — a service that was just set up has it, since it shows nothing.
* `Service.IsReachable.isFound` — what a service shows that can be met was found under its settings.

For the events of the engine this is `Engine.ShowsFound.keptWith`; what is left to show here is that
requests put nothing else into the engine.
-/

namespace Reception

/-! ### Events -/

/-- What is shown was found under some settings, and so will be what comes of searches and
submissions. -/
def ShowsFound (settings : Settings) (r : Reception) : Prop :=
  r.Has (Engine.ShowsFound settings) Search.IsInterpreted

namespace ShowsFound

variable {settings : Settings} {r : Reception}

/-- A service whose searches are spared shows what it showed. -/
theorem of_spares {s : Service} (h : r.ShowsFound settings)
    (hspares : Service.SparesSearches r.service s) : s.engine.ShowsFound settings where
  settings_eq := hspares.settings.trans h.engine.settings_eq
  shown := by
    rw [hspares.board]
    exact h.engine.shown
  pending := by
    rw [hspares.pending]
    exact h.engine.pending

/-- A request begins a search, submits a query, or leaves the searches alone. -/
theorem request (h : r.ShowsFound settings) (request : Request) :
    (r.on (.request request)).ShowsFound settings := by
  have hbegun := r.service.begun_begin request
  unfold on
  dsimp only
  generalize r.service.begin request = begun at hbegun ⊢
  cases hbegun with
  | searched query =>
    -- Its plan is made of the settings of the engine, which are those of before.
    obtain ⟨hengine, hsearch⟩ := h.engine.search query
    refine ⟨hengine, List.forall_mem_append.mpr ⟨h.searches, ?_⟩⟩
    exact List.forall_mem_singleton.mpr hsearch
  | submitted query => exact ⟨h.engine.submit query, h.searches⟩
  | answered response s hspares => exact ⟨h.of_spares hspares, h.searches⟩

/-- Each event keeps what is shown, and what will be, to results found under the settings. -/
theorem on (h : r.ShowsFound settings) (event : Event) : (r.on event).ShowsFound settings := by
  have hkept := Engine.ShowsFound.keptWith settings
  cases event with
  | request request => exact h.request request
  | again n => exact Has.again hkept h n
  | finish => exact Has.finish hkept h
  | leave n => exact Has.leave h n
  | sleep ms =>
    have hslept := hkept.sleep h.engine ms
    exact ⟨⟨hslept.settings_eq, hslept.shown, hslept.pending⟩, h.searches⟩
  | change files wallClock =>
    exact ⟨⟨h.engine.settings_eq, h.engine.shown, h.engine.pending⟩, h.searches⟩

/-- So do any events. -/
theorem run (h : r.ShowsFound settings) (events : List Event) :
    (r.run events).ShowsFound settings := by
  induction events generalizing r with
  | nil => exact h
  | cons event events ih => exact ih (h.on event)

end ShowsFound

end Reception

/-! ### Services -/

namespace Service

/-- The service was set up, and events have come to it since. -/
def IsReachable (s : Service) : Prop :=
  ∃ setup start events, Setup.build setup = .ok start ∧
    (Reception.run { service := start } events).service = s

variable {s start : Service}

/-- A service that was set up has searched nothing yet. -/
theorem showsFound_of_build {setup : Setup} (h : setup.build = .ok start) :
    Reception.ShowsFound start.settings { service := start } := by
  unfold Setup.build at h
  cases hcheck : Settings.check setup.settings with
  | error defect =>
    rw [hcheck] at h
    exact nomatch h
  | ok =>
    rw [hcheck] at h
    obtain rfl := Except.ok.inj h
    exact ⟨⟨rfl, nofun, nofun⟩, nofun⟩

/-- What is shown was found under the settings of the service. -/
theorem IsReachable.isFound (h : s.IsReachable) {o : Outcome} (ho : s.shown = some o) :
    o.IsFound s.settings := by
  obtain ⟨setup, start, events, hbuild, rfl⟩ := h
  have hfound := ((showsFound_of_build hbuild).run events).engine
  have hsettings : (Reception.run { service := start } events).service.settings =
      start.settings := hfound.settings_eq
  rw [hsettings]
  exact hfound.shown o ho

end Service

end Launcher
