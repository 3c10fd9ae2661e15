import Launcher.Decimal.Binary64
import Launcher.Hit

namespace Launcher

/-!
# Ranking and grouping of results

* `orderKey` — the total order of doubles by which scores are compared.
* `rank` — all candidates, the best first, one for each action.
* `groupHits` — ranked results under the trimmed labels of their groups.
* `Ranking` — the results of a search in rank order and in display order.
-/

/-- The place of a double in the total order of doubles: negative ones by falling magnitude, then
positive ones by rising magnitude, zeros with their signs, infinities and what is not a
number last. -/
def orderKey (x : Float) : Int :=
  let bits := x.toBits.toNat
  if bits < Decimal.signBit then bits else -(bits - Decimal.signBit : Nat) - 1

namespace Hit

/-- A result that stands before another or level with it: by falling score, then by the priority of
its kind. -/
def precedes (x y : Hit) : Bool :=
  let a := orderKey x.score
  let b := orderKey y.score
  b < a || (a == b && x.kind.priority ≤ y.kind.priority)

end Hit

/-- The results with one for each action that is not among `seen`, the first. -/
def distinctActions (seen : List Action) : List Hit → List Hit
  | [] => []
  | hit :: hits =>
    if hit.action ∈ seen then distinctActions seen hits
    else hit :: distinctActions (hit.action :: seen) hits

/-- The best results of all candidates, at most `limit`. Results of equal score and priority keep
their order. -/
def rank (limit : Nat) (candidates : List Hit) : List Hit :=
  (distinctActions [] (candidates.mergeSort Hit.precedes)).take limit

/-! ### Groups -/

/-- Results under one label; the label of results without a group is empty. -/
structure HitGroup where
  label : String
  hits : List Hit
deriving Repr

/-- The label under which a result is shown. -/
def Hit.label (hit : Hit) : String :=
  Text.trimmed hit.group

/-- Puts a result at the end of the group with its label, or into a new last group. -/
def addToGroup (hit : Hit) : List HitGroup → List HitGroup
  | [] => [⟨hit.label, [hit]⟩]
  | g :: gs =>
    if g.label = hit.label then { g with hits := g.hits ++ [hit] } :: gs else g :: addToGroup hit gs

/-- The groups of a list of results, in the order of their first results. -/
def groupHits (hits : List Hit) : List HitGroup :=
  hits.foldl (fun groups hit => addToGroup hit groups) []

/-- The results of a search. -/
structure Ranking where
  ranked : List Hit := []
  groups : List HitGroup := []
deriving Repr

namespace Ranking

/-- Ranks and groups the candidates of several streams. -/
def ofStreams (streams : List (List Hit)) (limit : Nat) : Ranking :=
  let ranked := rank limit streams.flatten
  ⟨ranked, groupHits ranked⟩

/-- The results in the order in which they are shown, group by group. -/
def displayed (r : Ranking) : List Hit :=
  r.groups.flatMap (·.hits)

/-- The first result in rank order. -/
def best? (r : Ranking) : Option Hit :=
  r.ranked.head?

end Ranking

end Launcher
