import Launcher.Settings.Validity

namespace Launcher.Settings

/-!
# What valid settings are

The check goes through the rules in order and stops at the first that is not kept. Which defect it
reports depends on the order; whether it reports one does not.

* `andThen_eq_ok_iff` — of two checks in a row, both have to succeed.
* `check_eq_ok_iff` — settings are valid if they keep every rule.
* `checkCommands_eq_ok_iff` — the commands keep the rule if each of them does.
* `isBlankString_keyword` — the keywords of valid settings are not blank.

What the single rules ask for is said where it is needed: in `Launcher.Proofs.Settings.Rules` for
all of them, and in `Launcher.Proofs.Settings.WebSearch` for templates.
-/

/-- Two checks in a row succeed if both do. -/
theorem andThen_eq_ok_iff {x y : Except Defect Unit} :
    (x >>= fun _ => y) = .ok () ↔ x = .ok () ∧ y = .ok () := by
  cases x with
  | error defect => exact ⟨nofun, nofun⟩
  | ok value => exact ⟨fun h => ⟨rfl, h⟩, fun h => h.2⟩

/-- **Valid settings** keep every rule. -/
theorem check_eq_ok_iff (s : Settings) :
    check s = .ok () ↔ checkMaxResults s.maxResults.toNat = .ok () ∧
      checkDebounce s.debounceMs.toNat = .ok () ∧ checkCurrencyBase s.currencyBase = .ok () ∧
      s.rateTtlSecs ≠ 0 ∧ checkWebSearch s.webSearch s.webSearchTemplate = .ok () ∧
      checkCommands s.commands = .ok () := by
  unfold check
  simp only [andThen_eq_ok_iff]
  by_cases httl : s.rateTtlSecs = 0
  · simp [httl, andThen_eq_ok_iff]
  · simp [httl, andThen_eq_ok_iff]

/-- The commands keep the rule if each of them does. -/
theorem checkCommands_eq_ok_iff {commands : List Command} :
    checkCommands commands = .ok () ↔ ∀ c ∈ commands, checkCommand c = .ok () := by
  induction commands with
  | nil => exact ⟨fun _ => List.forall_mem_nil _, fun _ => rfl⟩
  | cons c commands ih => rw [checkCommands, andThen_eq_ok_iff, ih, List.forall_mem_cons]

/-- The keywords of valid settings are not blank. -/
theorem isBlankString_keyword {s : Settings} (h : check s = .ok ()) {c : Command}
    (hc : c ∈ s.commands) : Text.isBlankString c.keyword = false := by
  obtain ⟨-, -, -, -, -, hcommands⟩ := (check_eq_ok_iff s).mp h
  have hcommand := checkCommands_eq_ok_iff.mp hcommands c hc
  rw [checkCommand] at hcommand
  split at hcommand
  next => cases hcommand
  next hblank => exact Bool.eq_false_iff.mpr hblank

end Launcher.Settings
