import Launcher.Proofs.Service.Reachable

namespace Launcher

/-!
# The tab key enters the command that is shown

Several commands may have one keyword, and a command may be found by its name as well. So it is not
the keyword of the text that says which command the tab key is to enter, but the result at the
position: it carries the command from which it was built.

* `ResultsView.hits` — the results of a search as a client counts them.
* `Service.OffersParam` — the result that a client is shown at a position accepts a parameter.
* `Service.enterable?` — the command of the result that is selected, if it accepts one. The tab key
  is described in its terms (`tab_of_normal`), and what a client sees also is
  (`offersParam_iff_enterable?`).
* `Service.TabEnters` — what the tab key does for each position.
* `Service.tab_enters_shown` — it does so in each service that can be met: those show results that
  were found under their settings, each of them built from one command.
-/

/-! ### What a client is shown -/

/-- The results of a search, group by group. -/
def ResultsView.hits (r : ResultsView) : List HitView :=
  r.groups.flatMap (·.hits)

/-- A client counts the results as they are ranked. -/
theorem ResultsView.hits_ofOutcome (o : Outcome) :
    (ResultsView.ofOutcome o).hits = o.ranking.displayed.map .ofHit := by
  simp [ResultsView.hits, ResultsView.ofOutcome, GroupView.ofGroup, Ranking.displayed,
    List.flatMap_map, List.map_flatMap]

namespace Service

variable {s : Service} {index : Option Nat} {o : Outcome} {hit : Hit}

/-- The result that a client is shown at a position accepts a parameter. -/
def OffersParam (s : Service) (index : Option Nat) : Prop :=
  ∃ o, s.shown = some o ∧
    ∃ view ∈ (ResultsView.ofOutcome o).hits[index.getD 0]?, view.acceptsParam = true

theorem selected?_eq_some_iff :
    s.selected? index = some hit ↔
      ∃ o, s.shown = some o ∧ o.ranking.displayed[index.getD 0]? = some hit :=
  Option.bind_eq_some_iff

/-- What a client is told of a result is true of the result. -/
theorem offersParam_iff :
    s.OffersParam index ↔ ∃ hit, s.selected? index = some hit ∧ hit.acceptsParam = true := by
  simp only [OffersParam, selected?_eq_some_iff, ResultsView.hits_ofOutcome, List.getElem?_map,
    Option.mem_def, Option.map_eq_some_iff]
  constructor
  · rintro ⟨o, hshown, _, ⟨hit, hhit, rfl⟩, haccepts⟩
    exact ⟨hit, ⟨o, hshown, hhit⟩, haccepts⟩
  · rintro ⟨hit, ⟨o, hshown, hhit⟩, haccepts⟩
    exact ⟨o, hshown, _, ⟨hit, hhit, rfl⟩, haccepts⟩

/-- A result accepts a parameter if it was built from a command that does. -/
theorem acceptsParam_iff :
    hit.acceptsParam = true ↔
      ∃ command, hit.command = some command ∧ command.acceptsParam = true := by
  unfold Hit.acceptsParam
  cases hit.command <;> simp

/-! ### The tab key -/

/-- The command that the tab key enters. -/
def enterable? (s : Service) (index : Option Nat) : Option Command :=
  ((s.selected? index).bind (·.command)).filter (·.acceptsParam)

/-- The command is that of the selected result. -/
theorem enterable?_eq_some_iff {command : Command} :
    s.enterable? index = some command ↔ ∃ hit, s.selected? index = some hit ∧
      hit.command = some command ∧ command.acceptsParam = true := by
  simp only [enterable?, Option.filter_eq_some_iff, Option.bind_eq_some_iff]
  constructor
  · rintro ⟨⟨hit, hselected, hcommand⟩, haccepts⟩
    exact ⟨hit, hselected, hcommand, haccepts⟩
  · rintro ⟨hit, hselected, hcommand, haccepts⟩
    exact ⟨⟨hit, hselected, hcommand⟩, haccepts⟩

/-- A client is shown that a parameter is accepted exactly if there is a command to enter. -/
theorem offersParam_iff_enterable? :
    s.OffersParam index ↔ ∃ command, s.enterable? index = some command := by
  simp only [offersParam_iff, enterable?_eq_some_iff, acceptsParam_iff]
  constructor
  · rintro ⟨hit, hselected, command, hcommand, haccepts⟩
    exact ⟨command, hit, hselected, hcommand, haccepts⟩
  · rintro ⟨command, hit, hselected, hcommand, haccepts⟩
    exact ⟨hit, hselected, command, hcommand, haccepts⟩

/-- The answer to the tab key that enters a command, and the service then. -/
def entered (s : Service) (command : Command) : Response × Service :=
  (.ok (.command (.ofHit (QueryBox.hitOf command ""))), { s with box := .typing command "" })

/-- While no parameter is typed, the tab key enters a command or does nothing. -/
theorem tab_of_normal (hmode : s.box.isParamMode = false) (index : Option Nat) :
    s.tab index = (s.enterable? index).elim (.ok .unchanged, s) s.entered := by
  unfold tab enterable? QueryBox.tab
  rw [hmode]
  generalize ((s.selected? index).bind (·.command)).filter (·.acceptsParam) = candidate
  cases candidate <;> rfl

/-! ### Main theorem -/

/-- What the tab key does for a position. -/
structure TabEnters (s : Service) (index : Option Nat) : Prop where
  /-- It enters a command exactly if the result at the position accepts a parameter. -/
  enters_iff : (s.tab index).2.box.isParamMode = true ↔ s.OffersParam index
  /-- The command is the one, and the only one, that the result was built from. -/
  enters : s.OffersParam index → ∃ o hit command, s.shown = some o ∧
    (ResultsView.ofOutcome o).hits[index.getD 0]? = some (.ofHit hit) ∧
    hit.IsBuilt s.settings o.query command ∧
    (∀ settings query command', hit.IsBuilt settings query command' → command' = command) ∧
    s.tab index = s.entered command ∧ (QueryBox.hitOf command "").action = command.action ""
  /-- Else nothing changes. -/
  unchanged : ¬ s.OffersParam index → s.tab index = (.ok .unchanged, s)

/-- **The tab key enters the very command that is shown**, whatever other commands have its
keyword. -/
theorem tab_enters_shown (hs : s.IsReachable) (hmode : s.box.isParamMode = false)
    (index : Option Nat) : s.TabEnters index := by
  have htab := tab_of_normal hmode index
  cases henter : s.enterable? index with
  | none =>
    rw [henter] at htab
    have hnone : ¬ s.OffersParam index := by
      rw [offersParam_iff_enterable?, henter]
      exact fun ⟨_, h⟩ => nomatch h
    refine ⟨?_, fun hoffers => absurd hoffers hnone, fun _ => htab⟩
    rw [htab]
    exact iff_of_false (Bool.eq_false_iff.mp hmode) hnone
  | some command =>
    rw [henter] at htab
    have hoffers : s.OffersParam index := offersParam_iff_enterable?.mpr ⟨command, henter⟩
    refine ⟨?_, fun _ => ?_, fun hnone => absurd hoffers hnone⟩
    · rw [htab]
      exact iff_of_true rfl hoffers
    · obtain ⟨hit, hselected, hcommand, -⟩ := enterable?_eq_some_iff.mp henter
      obtain ⟨o, hshown, hhit⟩ := selected?_eq_some_iff.mp hselected
      refine ⟨o, hit, command, hshown, ?_, ?_, ?_, htab, rfl⟩
      · rw [ResultsView.hits_ofOutcome, List.getElem?_map, hhit]
        rfl
      · exact (hs.isFound hshown).built hit (List.mem_of_getElem? hhit) command hcommand
      · intro settings query command' hbuilt
        -- A result that was built from a command carries it, so no other can have been its source.
        have hcommand' := command_of_matchCommand? hbuilt.matched
        exact Option.some.inj (hcommand'.symm.trans hcommand)

/-- Two commands have one keyword, and the second of them is found by its name. -/
theorem tab_enters_shown_second :
    let maps : Command := {
      id := "a", keyword := "g", displayName := "Maps", template := "https://maps/\x7bquery\x7d" }
    let github : Command := {
      id := "b", keyword := "g", displayName := "GitHub",
      template := "https://github/\x7bquery\x7d" }
    let settings : Settings := { Settings.defaults {} with commands := [maps, github] }
    let setup : Setup := { settings, wallClock := 0 }
    let start : Service := {
      engine := { sources := { settings, desk := { script := ⟨[]⟩ } }, wallClock := 0 } }
    let events : List Reception.Event := [.request (.search "github"), .finish]
    let s := (Reception.run { service := start } events).service
    setup.build = .ok start ∧ s.IsReachable ∧ s.box.isParamMode = false ∧
      (s.tab none).2.box.active = some github ∧ s.TabEnters none := by
  intro maps github settings setup start events s
  have hcheck : Settings.check settings = .ok () := by decide +kernel
  have hbuild : setup.build = .ok start := by
    rw [Setup.build, hcheck]
    rfl
  have hreachable : s.IsReachable := ⟨setup, start, events, hbuild, rfl⟩
  have hmode : s.box.isParamMode = false := by decide +kernel
  have hactive : (s.tab none).2.box.active = some github := by decide +kernel
  exact ⟨hbuild, hreachable, hmode, hactive, tab_enters_shown hreachable hmode none⟩

end Service

end Launcher
