import Launcher.Proofs.History
import Launcher.Proofs.Service.Receptions

namespace Launcher

/-!
# The history counts exactly the launches

The launch history decides what is suggested first, so its counts must be right: each launch of an
item is counted once in the row of that item, and nothing else is counted. What a launch is can be
said without the history, by what is selected when the enter key is used.

* `Hit.standsFor` — a result stands for the item of a kind at a path.
* `Service.launches` — the enter key launches an item: no parameter is typed, the selected result
  stands for the item, and the sink takes its action.
* `Service.execute_history` — what the enter key does to the history: nothing, or one launch.
* `Reception.on_history` — what one event does to the history.
* `Reception.Counts.count_run` — along any events, each row grows by the launches of its item.
* `Reception.history_counts` — after any events the history has counted the launches among them.
-/

/-! ### Results that stand for items -/

namespace Hit

/-- The result stands for the item of a kind at a path: it is of the sort of that item, and choosing
it does what choosing the item does. -/
def standsFor (hit : Hit) (kind : ItemKind) (path : String) : Bool :=
  hit.kind == (Item.atPath kind hit.title path).hitKind &&
    hit.action == (Item.atPath kind hit.title path).action

variable {hit : Hit} {item : Item} {kind : ItemKind} {path : String}

/-- A result stands for an item if its sort and its action are those of the item. -/
theorem standsFor_iff : hit.standsFor kind path = true ↔
    hit.kind = (Item.atPath kind hit.title path).hitKind ∧
      hit.action = (Item.atPath kind hit.title path).action := by
  simp [standsFor]

/-- The item behind a result is at the path that the action leads to. -/
theorem item?_eq_some (h : hit.item? = some item) :
    ∃ kind path, item = .atPath kind hit.title path ∧ hit.standsFor kind path = true := by
  simp only [standsFor_iff]
  unfold item? at h
  split at h
  next path hkind haction => exact ⟨.application, path, (Option.some.inj h).symm, hkind, haction⟩
  next path hkind haction => exact ⟨.file, path, (Option.some.inj h).symm, hkind, haction⟩
  next path hkind haction => exact ⟨.folder, path, (Option.some.inj h).symm, hkind, haction⟩
  next => exact nomatch h

/-- A result that stands for an item has it behind it. -/
theorem item?_of_standsFor (h : hit.standsFor kind path = true) :
    hit.item? = some (.atPath kind hit.title path) := by
  obtain ⟨hkind, haction⟩ := standsFor_iff.mp h
  unfold item?
  rw [hkind, haction]
  cases kind <;> rfl

/-- A result stands for one item at most. -/
theorem standsFor_iff_of_item? (h : hit.item? = some (.atPath kind hit.title path))
    (kind' : ItemKind) (path' : String) :
    hit.standsFor kind' path' = true ↔ kind' = kind ∧ path' = path := by
  constructor
  · intro hstands
    have hsame := (item?_of_standsFor hstands).symm.trans h
    exact ⟨congrArg Item.kind (Option.some.inj hsame), congrArg Item.path (Option.some.inj hsame)⟩
  · rintro ⟨rfl, rfl⟩
    obtain ⟨kind, path, hitem, hstands⟩ := item?_eq_some h
    obtain ⟨rfl, rfl⟩ : kind' = kind ∧ path' = path :=
      ⟨congrArg Item.kind hitem, congrArg Item.path hitem⟩
    exact hstands

/-- A result that stands for an item is no built-in command. -/
theorem action_ne_builtIn (h : hit.standsFor kind path = true) (id : String) :
    hit.action ≠ .builtIn id := by
  rw [(standsFor_iff.mp h).2]
  cases kind <;> exact nofun

end Hit

/-! ### One use of the enter key -/

namespace Service

variable {s : Service} {index : Option Nat} {item : Option Item} {action : Action}
  {answer : Except ExecuteFault Executed × Service}

/-- The sink takes an action. -/
def accepts (s : Service) (action : Action) : Bool :=
  (s.sink.take s.files action).1.toBool

/-- The enter key, with a position, launches the item of a kind at a path: no parameter is typed, the
result at the position stands for the item, and the sink takes its action. -/
def launches (s : Service) (kind : ItemKind) (path : String) (index : Option Nat) : Bool :=
  !s.box.isParamMode &&
    (s.selected? index).any fun hit => hit.standsFor kind path && s.accepts hit.action

/-- What the sink takes it accepts. -/
theorem accepts_of_ok (h : (s.sink.take s.files action).1 = .ok ()) : s.accepts action = true := by
  rw [accepts, h]
  rfl

/-- What the sink refuses it does not accept. -/
theorem accepts_of_error {fault : LaunchFault}
    (h : (s.sink.take s.files action).1 = .error fault) : s.accepts action = false := by
  rw [accepts, h]
  rfl

/-- A launch is counted at the time that the clock shows. -/
theorem history_recordLaunch (hkeeps : s.keepsHistory = true) (item : Item) :
    (s.recordLaunch item).history = s.history.record item s.engine.wallClock := by
  unfold recordLaunch
  rw [if_pos hkeeps]
  rfl

/-- Counting a launch changes nothing of whether launches are counted. -/
theorem keepsHistory_recordLaunch (s : Service) (item : Item) :
    (s.recordLaunch item).keepsHistory = s.keepsHistory := by
  unfold recordLaunch
  split <;> rfl

/-- Nor does carrying an action out. -/
theorem keepsHistory_of_carried (h : Carried s item action answer) :
    answer.2.keepsHistory = s.keepsHistory := by
  cases h with
  | inside id b hid s' hspares => exact hspares.keepsHistory
  | launched action =>
    cases item with
    | none => rfl
    | some item => exact keepsHistory_recordLaunch _ item
  | unknown | opened | shut | refused => rfl

/-- Without an item nothing is counted, whatever is carried out. -/
theorem history_of_carried_none (h : Carried s none action answer) :
    answer.2.history = s.history := by
  cases h with
  | inside id b hid s' hspares => exact hspares.history
  | unknown | opened | shut | launched | refused => rfl

/-- The launch of an item is counted if the sink takes the action. -/
theorem history_of_carried_some {counted : Item} (hkeeps : s.keepsHistory = true)
    (hne : ∀ id, action ≠ .builtIn id) (h : Carried s (some counted) action answer) :
    answer.2.history = if s.accepts action then s.history.record counted s.engine.wallClock
      else s.history := by
  cases h with
  | unknown | inside | opened | shut => exact absurd rfl (hne _)
  | launched action _ htake =>
    rw [if_pos (accepts_of_ok htake)]
    exact history_recordLaunch (s := s.handed action) hkeeps counted
  | refused action fault _ htake =>
    rw [if_neg (by simp [accepts_of_error htake])]
    rfl

/-- With a result selected, what is launched is the item that this stands for, if the sink takes
it. -/
theorem launches_of_selected {hit : Hit} (hmode : s.box.isParamMode = false)
    (hselected : s.selected? index = some hit) (kind : ItemKind) (path : String) :
    s.launches kind path index = (hit.standsFor kind path && s.accepts hit.action) := by
  simp [launches, hmode, hselected]

/-- With nothing to count, nothing is launched. -/
theorem launches_of_uncountable (h : s.countable? index = none) (kind : ItemKind)
    (path : String) : s.launches kind path index = false := by
  by_contra hlaunches
  simp only [launches, Bool.not_eq_false, Bool.and_eq_true, Bool.not_eq_true',
    Option.any_eq_true] at hlaunches
  obtain ⟨hmode, hit, hselected, hstands, -⟩ := hlaunches
  have hitem := Hit.item?_of_standsFor hstands
  simp [countable?, hmode, hselected, hitem] at h

/-- The enter key with nothing to count. -/
theorem history_of_uncountable (h : s.countable? index = none) :
    (s.execute index).2.history = s.history := by
  obtain ⟨-, fault, hexecute⟩ | ⟨action, -, hexecute⟩ := s.execute_cases index
  · rw [hexecute]
  · rw [hexecute, h]
    exact history_of_carried_none (s := { s with box := {} }) (carried_perform _ action none)

/-- The enter key with a result selected that stands for an item. -/
theorem history_of_countable {hit : Hit} {item : Item} (hkeeps : s.keepsHistory = true)
    (hmode : s.box.isParamMode = false) (hselected : s.selected? index = some hit)
    (hitem : hit.item? = some item) :
    (s.execute index).2.history = if s.accepts hit.action
      then s.history.record item s.engine.wallClock else s.history := by
  obtain ⟨kind, path, -, hstands⟩ := Hit.item?_eq_some hitem
  rw [execute_of_selected hmode hselected, hitem]
  exact history_of_carried_some (s := { s with box := {} }) hkeeps
    (Hit.action_ne_builtIn hstands) (carried_perform _ hit.action (some item))

/-- **What the enter key does to the history.** It launches no item and the history stays as it is,
or it launches one item and the history counts it. -/
theorem execute_history (hkeeps : s.keepsHistory = true) (index : Option Nat) :
    ((s.execute index).2.history = s.history ∧
      ∀ kind path, s.launches kind path index = false) ∨
    ∃ kind title path time,
      (s.execute index).2.history = s.history.record (.atPath kind title path) time ∧
      ∀ kind' path', s.launches kind' path' index = true ↔ kind' = kind ∧ path' = path := by
  cases hcountable : s.countable? index with
  | none => exact .inl ⟨history_of_uncountable hcountable, launches_of_uncountable hcountable⟩
  | some item =>
    obtain ⟨hit, hmode, hselected, hitem⟩ := countable?_eq_some hcountable
    have hhistory := history_of_countable hkeeps hmode hselected hitem
    have hlaunches := launches_of_selected hmode hselected
    cases haccepts : s.accepts hit.action with
    | false =>
      rw [haccepts] at hhistory
      exact .inl ⟨hhistory, fun kind path => by rw [hlaunches, haccepts, Bool.and_false]⟩
    | true =>
      rw [haccepts] at hhistory
      obtain ⟨kind, path, rfl, -⟩ := Hit.item?_eq_some hitem
      refine .inr ⟨kind, hit.title, path, s.engine.wallClock, hhistory, ?_⟩
      intro kind' path'
      rw [hlaunches, haccepts, Bool.and_true]
      exact Hit.standsFor_iff_of_item? hitem kind' path'

/-- The enter key changes nothing of whether launches are counted. -/
theorem keepsHistory_execute (s : Service) (index : Option Nat) :
    (s.execute index).2.keepsHistory = s.keepsHistory := by
  obtain ⟨-, fault, h⟩ | ⟨action, -, h⟩ := s.execute_cases index
  · rw [h]
  · rw [h]
    exact keepsHistory_of_carried (s := { s with box := {} }) (carried_perform _ action _)

end Service

/-! ### Any events -/

namespace Reception

variable {r : Reception}

/-- The event launches the item of a kind at a path. -/
def launches (r : Reception) (kind : ItemKind) (path : String) : Event → Bool
  | .request (.execute index) => r.service.launches kind path index
  | _ => false

/-- The number of events that launch the item of a kind at a path. -/
def launchCount (kind : ItemKind) (path : String) (r : Reception) : List Event → Nat
  | [] => 0
  | event :: events =>
    (if r.launches kind path event then 1 else 0) + launchCount kind path (r.on event) events

/-- Only the enter key launches anything. -/
theorem launches_of_idle {event : Event} (h : ∀ index, event ≠ .request (.execute index))
    (kind : ItemKind) (path : String) : r.launches kind path event = false := by
  unfold launches
  split
  next index => exact absurd rfl (h index)
  next => rfl

/-- **What an event does to the history.** It launches no item and the history stays as it is, or it
launches one item and the history counts it. -/
theorem on_history (hkeeps : r.service.keepsHistory = true) (event : Event) :
    ((r.on event).service.history = r.service.history ∧
      ∀ kind path, r.launches kind path event = false) ∨
    ∃ kind title path time,
      (r.on event).service.history = r.service.history.record (.atPath kind title path) time ∧
      ∀ kind' path', r.launches kind' path' event = true ↔ kind' = kind ∧ path' = path := by
  obtain ⟨index, rfl, hon⟩ | ⟨hevent, hidle⟩ := r.on_cases event
  · rw [hon]
    exact Service.execute_history hkeeps index
  · exact .inl ⟨hidle.spares.history, launches_of_idle hevent⟩

/-- No event changes whether launches are counted. -/
theorem keepsHistory_on (r : Reception) (event : Event) :
    (r.on event).service.keepsHistory = r.service.keepsHistory := by
  obtain ⟨index, rfl, hon⟩ | ⟨-, hidle⟩ := r.on_cases event
  · rw [hon]
    exact Service.keepsHistory_execute r.service index
  · exact hidle.spares.keepsHistory

/-- The history of a service is proper, and launches are counted in it. -/
structure Counts (r : Reception) : Prop where
  keeps : r.service.keepsHistory = true
  proper : r.service.history.Proper

/-- Each event leaves the history proper. -/
theorem Counts.on (h : r.Counts) (event : Event) : (r.on event).Counts where
  keeps := (keepsHistory_on r event).trans h.keeps
  proper := by
    obtain ⟨hsame, -⟩ | ⟨kind, title, path, time, hrecord, -⟩ := on_history h.keeps event
    · rw [hsame]
      exact h.proper
    · rw [hrecord]
      exact h.proper.record kind title path time

/-- So do any events. -/
theorem Counts.run (h : r.Counts) (events : List Event) : (r.run events).Counts := by
  induction events generalizing r with
  | nil => exact h
  | cons event events ih => exact ih (h.on event)

/-- An event adds one to the row of the item that it launches, and nothing to any other. -/
theorem Counts.count_on (h : r.Counts) (event : Event) (kind : ItemKind) (path : String) :
    (r.on event).service.history.count (Item.idAt kind path) =
      r.service.history.count (Item.idAt kind path) +
        if r.launches kind path event then 1 else 0 := by
  obtain ⟨hsame, hnone⟩ | ⟨kind', title, path', time, hrecord, hlaunches⟩ :=
    on_history h.keeps event
  · rw [hsame, hnone]
    rfl
  · -- A row is found by its identity, and that names one kind and one path.
    have hid : Item.idAt kind' path' = Item.idAt kind path ↔
        r.launches kind path event = true := by
      rw [Item.idAt_inj, hlaunches]
      exact ⟨fun h => ⟨h.1.symm, h.2.symm⟩, fun h => ⟨h.1.symm, h.2.symm⟩⟩
    rw [hrecord, History.count_record, Item.atPath_id]
    simp only [hid]

/-- So the row of an item grows by the number of its launches. -/
theorem Counts.count_run (h : r.Counts) (events : List Event) (kind : ItemKind)
    (path : String) : (r.run events).service.history.count (Item.idAt kind path) =
      r.service.history.count (Item.idAt kind path) + launchCount kind path r events := by
  induction events generalizing r with
  | nil => rfl
  | cons event events ih =>
    rw [run_cons, ih (h.on event), h.count_on event, launchCount, Nat.add_assoc]

/-! ### Main theorem -/

/-- What the history of a service has to do with some events. -/
structure CountsLaunches (s : Service) (events : List Event) : Prop where
  /-- The row of a kind and a path has counted the launches of that item. -/
  counted : ∀ kind path,
    (run { service := s } events).service.history.count (Item.idAt kind path) =
      launchCount kind path { service := s } events
  /-- An event that launches no item changes no row. -/
  spared : ∀ before event after, events = before ++ event :: after →
    (∀ kind path, (run { service := s } before).launches kind path event = false) →
    (run { service := s } (before ++ [event])).service.history =
      (run { service := s } before).service.history
  /-- No two rows name the same kind and path. -/
  distinct : (run { service := s } events).service.history.launches.Pairwise fun a b =>
    ¬(a.item.kind = b.item.kind ∧ a.item.path = b.item.path)

/-- **The history counts exactly the launches.** A service whose history is empty at first has, after
any events, counted for each item how often it was launched. -/
theorem history_counts {s : Service} (hkeeps : s.keepsHistory = true) (hempty : s.history = {})
    (events : List Event) : CountsLaunches s events := by
  have hproper : s.history.Proper := hempty ▸ History.proper_empty
  have hstart : Counts { service := s } := ⟨hkeeps, hproper⟩
  exact {
    counted := by
      intro kind path
      have hcount : s.history.count (Item.idAt kind path) = 0 := by
        rw [hempty]
        rfl
      rw [hstart.count_run events kind path, hcount, Nat.zero_add]
    spared := by
      intro before event after _ hnone
      rw [run_append]
      obtain ⟨hsame, -⟩ | ⟨kind, title, path, time, -, hlaunches⟩ :=
        on_history (hstart.run before).keeps event
      · exact hsame
      · have hlaunched := (hlaunches kind path).mpr ⟨rfl, rfl⟩
        rw [hnone kind path] at hlaunched
        exact nomatch hlaunched
    distinct := (hstart.run events).proper.distinct }

/-- An application is found and launched, twice. -/
theorem history_counts_application :
    let settings : Settings := { Settings.defaults {} with commands := [] }
    let s : Service := {
      engine := {
        sources := {
          settings
          desk := { script := ⟨[]⟩ }
          providers := [.plain (.fixed "apps" [.atPath .application "Quartz" "/apps/quartz"])] }
        wallClock := 0 }
      keepsHistory := true }
    let launch : List Event :=
      [.request (.search "quartz"), .finish, .request (.execute none)]
    launchCount .application "/apps/quartz" { service := s } (launch ++ launch) = 2 ∧
      s.keepsHistory = true ∧ s.history = {} ∧ CountsLaunches s (launch ++ launch) := by
  intro settings s launch
  exact ⟨by decide +kernel, rfl, rfl, history_counts rfl rfl (launch ++ launch)⟩

end Reception

end Launcher
