import CardGrove.Contest
import CardGrove.Matching

/-! Table groups. Cards with a table rule that counts distinct ids share one grouping per player:
matches are packed into groups without repeated ids, and a card's count is the size of its group
when its turn in scoring order comes. -/
namespace CardGrove

/-- Every card's group, as the ids in it, and the counts recorded; the first entry of an index
counts. -/
structure TableGroups where
  groups : List (Nat × List Text) := []
  counts : List (Nat × Nat) := []
  deriving DecidableEq, Repr

namespace TableGroups

/-- Puts an id into the first bin that lacks it, or into a new one; answers which. -/
def place (id : Text) : List (List Text) → Nat × List (List Text)
  | [] => (0, [[id]])
  | bin :: bins =>
    if id ∈ bin then
      let (n, bins) := place id bins
      (n + 1, bin :: bins)
    else (0, (bin ++ [id]) :: bins)

def pack (bins : List (List Text)) : List Instance → List (Nat × Nat) × List (List Text)
  | [] => ([], bins)
  | c :: cs =>
    let (n, bins) := place c.id bins
    let (places, bins) := pack bins cs
    ((c.index, n) :: places, bins)

def group? (g : TableGroups) (c : Instance) : Option (List Text) := g.groups.lookup c.index

def size (g : TableGroups) (c : Instance) : Nat := ((g.group? c).map (·.length)).getD 0

def count (g : TableGroups) (c : Instance) : Nat := (g.counts.lookup c.index).getD 0

def record (g : TableGroups) (c : Instance) : TableGroups :=
  { g with counts := (c.index, g.size c) :: g.counts }

/-- Packs matches into new groups. The owner takes the first group unless it is itself a match;
a match that had a group moves to its new one. -/
def assign (g : TableGroups) (owner : Instance) (cards : List Instance) : TableGroups :=
  let (places, bins) := pack [[]] cards
  let moved := places.reverse.map fun (index, n) => (index, (bins[n]?).getD [])
  { g with groups := moved ++ (owner.index, (bins[0]?).getD []) :: g.groups }

def condition? (c : Instance) : Option Condition :=
  c.rule.bind fun r => if r.isTable then r.condition.filter (·.unique) else none

/-- The groups after a card's turn. A card that an earlier one has grouped keeps that group. -/
def visit (layouts : List Layout) (layout : Layout) (g : TableGroups) (c : Instance) :
    StateM Standings TableGroups := do
  match condition? c with
  | none => return g
  | some condition =>
    let wins ← Contest.isWinner layouts layout.player c condition
    if !wins || condition.fullTree then return g
    else if (g.group? c).isSome then return g.record c
    else
      match layout.pool? c condition with
      | none => return g
      | some pool => return (g.assign c (condition.select c pool)).record c

def ofLayout (layouts : List Layout) (layout : Layout) : StateM Standings TableGroups :=
  layout.instances.foldlM (visit layouts layout) {}

end TableGroups

namespace Condition

def usesGroups (condition : Condition) (c : Instance) : Bool :=
  condition.unique && c.rule.any (·.isTable)

end Condition

namespace Layout

def countMatches (layouts : List Layout) (layout : Layout) (g : TableGroups) (c : Instance)
    (condition : Condition) : StateM Standings Nat := do
  let wins ← Contest.isWinner layouts layout.player c condition
  if !wins then return 0
  else if condition.fullTree then
    return if (layout.placements.get? c).any (·.tree.isFull) then 1 else 0
  else
    match layout.pool? c condition with
    | none => return 0
    | some pool =>
      if condition.usesGroups c then return g.count c
      else return Instance.tally condition.unique (condition.select c pool)

end Layout
end CardGrove
