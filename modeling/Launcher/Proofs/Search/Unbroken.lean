import Launcher.Proofs.Search.Frame
import Launcher.Proofs.Search.Lasting

namespace Launcher

/-!
# An engine whose searches do not break off

A search that breaks off takes the task of its caller with it: a line is then not answered at all.
So for every line to be answered, no search of the engine may break off. This follows from the life
times of rates alone, by the same cases as for a traffic.

* `Engine.Lasting` — life times add up, and what is pending has not broken off.
* `Search.Unbroken` — a search has not broken off, and is not about to.
* `Engine.Lasting.search`, `Engine.Lasting.submit`, `Engine.Lasting.keptWith` — so it stays when a
  query comes, and however much time passes.
-/

/-- A search has not broken off, and is not about to. -/
structure Search.Unbroken (s : Search) : Prop where
  ne_broken : s ≠ .broken
  running : ∀ run, s = .running run → run.interpretation ≠ .broken

namespace Engine

/-- Life times add up, and the run of what is pending has not broken off. -/
structure Lasting (e : Engine) (limit : Nat) : Prop where
  sources : e.sources.Lasting limit
  pending : ∀ run, e.pending = some (.running run) → run.interpretation ≠ .broken

namespace Lasting

variable {e : Engine} {limit : Nat} {r : Run}

/-- A run that has not broken off ends without breaking off, or waits. -/
theorem proceed (h : e.Lasting limit) (hr : r.interpretation ≠ .broken) (notify : Bool) :
    (e.proceed r notify).2.Lasting limit ∧ (e.proceed r notify).1.Unbroken := by
  rcases e.proceed_cases r notify with
    ⟨-, hrun⟩ | ⟨hbroken, hrun⟩ | ⟨-, hrun⟩ | ⟨o, -, -, hrun⟩
  · rw [hrun]
    refine ⟨h, nofun, ?_⟩
    rintro _ ⟨⟩
    exact hr
  · -- Findings break off only with the interpretation.
    exact absurd hbroken (Run.findings?_ne_broken hr)
  · rw [hrun]
    exact ⟨h, nofun, nofun⟩
  · rw [hrun]
    exact ⟨⟨h.sources, h.pending⟩, nofun, nofun⟩

/-- So does the run of a submission. -/
theorem proceedPending (h : e.Lasting limit) (hr : r.interpretation ≠ .broken) :
    (e.proceedPending r).Lasting limit := by
  rcases e.proceedPending_cases r with ⟨-, hrun⟩ | hrun | ⟨o, -, -, hrun⟩ <;> rw [hrun]
  · refine ⟨h.sources, ?_⟩
    rintro _ ⟨⟩
    exact hr
  · exact ⟨h.sources, nofun⟩
  · exact ⟨h.sources, nofun⟩

/-- A search does not break off when it begins. -/
theorem search (h : e.Lasting limit) (query : String) :
    (e.search query).2.Lasting limit ∧ (e.search query).1.Unbroken := by
  have hbegun := Run.begin_lasting h.sources e.now (e.board.latest + 1) query
  rcases hbegin : Run.begin e.sources e.now (e.board.latest + 1) query with ⟨run, sources⟩
  rw [hbegin] at hbegun
  rw [search_eq hbegin]
  have hasked : (e.asked sources).Lasting limit := ⟨hbegun.1, nofun⟩
  exact hasked.proceed hbegun.2 false

/-- A submission has no run yet. -/
theorem submit (h : e.Lasting limit) (query : String) : (e.submit query).2.Lasting limit where
  sources := h.sources
  pending := by
    rintro run ⟨⟩

/-- A search does not break off when it is looked at again. -/
theorem again (h : e.Lasting limit) {s : Search} (hs : s.Unbroken) :
    (e.again s).2.Lasting limit ∧ (e.again s).1.Unbroken := by
  cases s with
  | running run =>
    have hlooked := Run.again_lasting h.sources e.now (hs.running run rfl)
    rcases hagain : run.again e.sources e.now with ⟨run', sources⟩
    rw [hagain] at hlooked
    rw [again_eq hagain]
    have hsources : Lasting { e with sources } limit := ⟨hlooked.1, h.pending⟩
    exact hsources.proceed hlooked.2 false
  | published | superseded | broken => exact ⟨h, hs⟩

/-- Nor does what is pending. -/
theorem poll (h : e.Lasting limit) : e.poll.Lasting limit := by
  rcases e.poll_cases with hpoll | hpoll |
    ⟨ticket, query, due, run, sources, -, hbegin, hpoll⟩ |
    ⟨run, run', sources, hpending, hagain, hpoll⟩ <;> rw [hpoll]
  · exact h
  · exact ⟨h.sources, nofun⟩
  · have hbegun := Run.begin_lasting h.sources e.now ticket query
    rw [hbegin] at hbegun
    exact proceedPending ⟨hbegun.1, h.pending⟩ hbegun.2
  · have hlooked := Run.again_lasting h.sources e.now (h.pending run hpending)
    rw [hagain] at hlooked
    exact proceedPending ⟨hlooked.1, h.pending⟩ hlooked.2

/-- So it is whatever happens while one waits for searches. -/
theorem keptWith (limit : Nat) : KeptWith (Lasting · limit) Search.Unbroken where
  wait _ _ h := ⟨h.sources, h.pending⟩
  again _ _ h hs := h.again hs
  poll _ h := h.poll

end Lasting

end Engine

end Launcher
