import Launcher.Proofs.Service.Reachable

namespace Launcher

/-!
# Executions that fail

The enter key fails for three reasons: the request is out of place, nothing is selected, or the sink
refuses the action. In the first two nothing has been handed to anybody, and nothing may have
changed. In the third the query box has already been emptied, which is all that remains of it.

* `Sink.take_of_refused` — a sink that refuses an action stays as it is.
* `Service.IsReachable.isKnown_action` — the action that the enter key asks for is known.
* `Service.LeavesIntact` — what is left behind when nothing was executed.
* `Service.failed_execute_leaves_intact` — so it is whenever the enter key fails.

That "the sink is not asked" is said by replacing it: with every other sink in its place the answer
is the same, and that sink is left as it was. A built-in command that nobody knows would be a fourth
reason; it is excluded because the services are ones that can be met, whose results come of commands
of the settings.
-/

/-- A sink that refuses an action stays as it is. -/
theorem Sink.take_of_refused {sink : Sink} {files : Files} {action : Action} {reason : LaunchFault}
    (h : (sink.take files action).1 = .error reason) :
    sink.take files action = (.error reason, sink) := by
  cases sink with
  | recording actions => exact nomatch h
  | checking | refusing => exact Prod.ext h rfl

namespace Service

variable {s : Service} {index : Option Nat}

/-! ### What the enter key asks for -/

/-- What the enter key asks for is an action of a result that was found, or of the command whose
parameter is typed. -/
theorem IsReachable.isKnown_action (hs : s.IsReachable) {action : Action}
    (h : s.box.action? (s.selected? index) = some action) : action.IsKnown := by
  unfold QueryBox.action? at h
  split at h
  next command _ _ =>
    obtain rfl := Option.some.inj h
    exact command.isKnown_action _
  next =>
    obtain ⟨hit, hselected, rfl⟩ := Option.map_eq_some_iff.mp h
    obtain ⟨o, hshown, hhit⟩ := Option.bind_eq_some_iff.mp hselected
    exact (hs.isFound hshown).isProper.known hit (List.mem_of_getElem? hhit)

/-- If the enter key asks for nothing, it makes no difference what the sink is. -/
theorem execute_of_no_action (h : s.box.action? (s.selected? index) = none) :
    ∃ fault : ExecuteFault, fault.code ≠ .launch ∧
      ∀ sink, { s with sink }.execute index = (.error fault, { s with sink }) := by
  have hselected (sink : Sink) : ({ s with sink } : Service).selected? index = s.selected? index :=
    rfl
  unfold execute
  simp only [hselected, enter_eq, h]
  split
  next i _ _ => exact ⟨.noResult i, nofun, fun _ => rfl⟩
  next => exact ⟨.nothingSelected, nofun, fun _ => rfl⟩

/-! ### Main theorem -/

/-- What is left behind when nothing was executed. -/
structure LeavesIntact (s : Service) (index : Option Nat) (fault : ExecuteFault) (s' : Service) :
    Prop where
  /-- If there was nothing to carry out, nothing changes, and no sink is asked. -/
  unselected : fault.code = .invalidRequest ∨ fault.code = .nothingSelected →
    s' = s ∧ ∀ sink, { s with sink }.execute index = (.error fault, { s with sink })
  /-- If there was, the sink has refused it, and only the query box is emptied. -/
  refused : fault.code = .launch → s' = { s with box := {} } ∧
    ∃ action reason, fault = .launch reason ∧ s.sink.take s.files action = (.error reason, s.sink)

/-- An action that the sink refuses leaves the query box empty, and nothing else behind. -/
theorem LeavesIntact.of_refused {action : Action} {reason : LaunchFault}
    (h : (s.sink.take s.files action).1 = .error reason) :
    s.LeavesIntact index (.launch reason) ({ s with box := {} }.handed action) where
  unselected := by simp [ExecuteFault.code]
  refused := by
    have htake := Sink.take_of_refused h
    intro _
    refine ⟨?_, action, reason, rfl, htake⟩
    show { s with box := {}, sink := (s.sink.take s.files action).2 } = { s with box := {} }
    rw [htake]

/-- **An execution that fails leaves the rest intact.** -/
theorem failed_execute_leaves_intact {s : Service} {index : Option Nat} {fault : ExecuteFault}
    (hs : s.IsReachable) (h : (s.execute index).1 = .error fault) :
    s.LeavesIntact index fault (s.execute index).2 := by
  cases haction : s.box.action? (s.selected? index) with
  | none =>
    -- Nothing is asked for: the answer is the same with every sink.
    obtain ⟨fault', hcode, heq⟩ := execute_of_no_action haction
    have hsame : s.execute index = (.error fault', s) := heq s.sink
    rw [hsame] at h ⊢
    obtain rfl := Except.error.inj h
    exact ⟨fun _ => ⟨rfl, heq⟩, fun hlaunch => absurd hlaunch hcode⟩
  | some action =>
    have hknown := hs.isKnown_action haction
    obtain ⟨hnone, -⟩ | ⟨action', hsome, hexecute⟩ := s.execute_cases index
    · exact nomatch hnone.symm.trans haction
    · obtain rfl := Option.some.inj (hsome.symm.trans haction)
      have hcarried := carried_perform { s with box := {} } action' (s.countable? index)
      rw [← hexecute] at hcarried
      generalize s.execute index = answer at h hcarried ⊢
      obtain ⟨result, s'⟩ := answer
      obtain rfl : result = .error fault := h
      -- A known action fails only if the sink refuses it, or the place that it opens.
      cases hcarried with
      | unknown id hid =>
        obtain ⟨b, hb⟩ := hknown id rfl
        exact nomatch hid.symm.trans hb
      | shut id b hid place reason htake => exact .of_refused htake
      | refused action reason hne htake => exact .of_refused htake

/-- A shell command is found, and refused by the sink. -/
theorem failed_execute_leaves_intact_shell :
    let settings : Settings := { Settings.defaults {} with commands := [] }
    let setup : Setup := { settings, sink := .refusing "not here", wallClock := 0 }
    let start : Service := {
      engine := { sources := { settings, desk := { script := ⟨[]⟩ } }, wallClock := 0 }
      sink := .refusing "not here" }
    let events : List Reception.Event := [.request (.search "> ls"), .finish]
    let s := (Reception.run { service := start } events).service
    let fault : ExecuteFault := .launch (.failed "not here")
    setup.build = .ok start ∧ s.IsReachable ∧ (s.execute none).1 = .error fault ∧
      s.LeavesIntact none fault (s.execute none).2 := by
  intro settings setup start events s fault
  have hcheck : Settings.check settings = .ok () := by decide +kernel
  have hbuild : setup.build = .ok start := by
    rw [Setup.build, hcheck]
    rfl
  have hreachable : s.IsReachable := ⟨setup, start, events, hbuild, rfl⟩
  have hresult : (s.execute none).1 = .error fault := by decide +kernel
  exact ⟨hbuild, hreachable, hresult, failed_execute_leaves_intact hreachable hresult⟩

end Service

end Launcher
