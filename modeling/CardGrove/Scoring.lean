import CardGrove.Award
import CardGrove.Json.Basic
import CardGrove.Overflow

/-! Scoring of one layout. The scores are given by functions that always have a value; whether the
program gets that far is told beside them. It does not where an integer beyond all doubles meets a
double, or where an integer is to be spelled that has more digits than are written. -/
namespace CardGrove

inductive ScoreError where
  | outOfRange
  | integerTooLong
  deriving DecidableEq, Repr

structure CardScore where
  label : Text
  points : Int
  reason : Text
  title : Text
  group : Option Text
  deriving DecidableEq, Repr

def CardScore.total (cards : List CardScore) : Int := cards.foldr (fun c sum => c.points + sum) 0

structure PlayerScore (ν : Type) where
  name : ν
  total : Int := 0
  cards : List CardScore := []
  deriving DecidableEq, Repr

namespace Layout

def awards (layouts : List Layout) (layout : Layout) :
    StateM Standings (List (Nat × Award)) := do
  let groups ← TableGroups.ofLayout layouts layout
  layout.instances.mapM fun c => do
    let award ← layout.award layouts groups c
    return (c.index, award)

def cardScores (layout : Layout) (awards : List (Nat × Award)) : List CardScore :=
  let positions := layout.forest.positions.reverse
  layout.forest.displayOrder.map fun c =>
    let award := (awards.lookup c.index).getD .noEffect
    ⟨c.label, award.points, award.reason, c.id,
      (positions.lookup c.index).map Forest.groupLabel⟩

def score {ν : Type} (layouts : List Layout) (name : ν) (layout : Layout) :
    StateM Standings (PlayerScore ν) := do
  if layout.instances.isEmpty then return { name }
  else
    let awards ← layout.awards layouts
    let cards := layout.cardScores awards
    return ⟨name, CardScore.total cards, cards⟩

/-- A condition looks at the cards below a card, and one of them cannot be compared with it. -/
def poolOverflows (layout : Layout) (c : Instance) (condition : Condition) : Bool :=
  !condition.fullTree && !condition.sameTree && !condition.sameSpot && condition.below &&
    layout.instances.any fun other =>
      c.box.y2 ≤ other.box.y1 && other.box.sharedOverflows c.box .top

end Layout

namespace TableGroups

def visitOverflows (layouts : List Layout) (layout : Layout) (g : TableGroups) (c : Instance) :
    StateM Standings Bool := do
  match condition? c with
  | none => return false
  | some condition =>
    let wins ← Contest.isWinner layouts layout.player c condition
    return wins && (g.group? c).isNone && layout.poolOverflows c condition

def overflow (layouts : List Layout) (layout : Layout) (g : TableGroups) :
    List Instance → StateM Standings Bool
  | [] => return false
  | c :: cs => do
    if ← visitOverflows layouts layout g c then return true
    else
      let g ← visit layouts layout g c
      overflow layouts layout g cs

end TableGroups

namespace Rule

/-- The integers that are spelled in the reason of an award, but for the number of matches: there
are never so many cards that it would be too long. -/
def spelled (r : Rule) (matched : Option Int) : List Int :=
  match r.payout, r.condition, matched with
  | .fixed amount, some _, some n =>
    r.min.toList ++ if Award.isMet r.min n then [amount] else []
  | .fixed amount, _, _ => [amount]
  | .multiplication amount, some _, some _ => amount :: r.min.toList
  | _, _, _ => []

def error? (r : Rule) (matched : Option Int) : Option ScoreError :=
  if (r.spelled matched).all fun n => (Json.int n).withinLimit then none else some .integerTooLong

end Rule

namespace Layout

def awardError? (layouts : List Layout) (layout : Layout) (g : TableGroups) (c : Instance) :
    StateM Standings (Option ScoreError) := do
  match c.rule with
  | none => return none
  | some rule =>
    match rule.condition with
    | none => return rule.error? none
    | some condition =>
      let wins ← Contest.isWinner layouts layout.player c condition
      if wins && layout.poolOverflows c condition then return some .outOfRange
      else
        let n ← layout.countMatches layouts g c condition
        return rule.error? (some (Int.ofNat n))

/-- What the scoring of a layout fails with: tables are grouped first, then every card gets its
award, and at last the cards are put in display order. -/
def error? (layouts : List Layout) (layout : Layout) : StateM Standings (Option ScoreError) := do
  if layout.instances.isEmpty then return none
  else if ← TableGroups.overflow layouts layout {} layout.instances then return some .outOfRange
  else
    let groups ← TableGroups.ofLayout layouts layout
    match ← layout.instances.findSomeM? (layout.awardError? layouts groups) with
    | some e => return some e
    | none => return if layout.forest.displayOverflows then some .outOfRange else none

end Layout
end CardGrove
