import CardGrove.TableGroups

/-! Awards: the points of a rule for a number of matches, and the explanation shown to players. -/
namespace CardGrove

structure Award where
  points : Int
  reason : Text
  deriving DecidableEq, Repr

namespace Award

def noEffect : Award := ⟨0, "no effect"⟩

def noCondition : Award := ⟨0, "0 (no condition)"⟩

def pointsWord (n : Int) : Text := if n = 1 then "point" else "points"

def amountText (n : Int) : Text := Text.ofInt n ++ " " ++ pointsWord n

/-- The entry of a table for a count: the first one up to one match, the last one from the
table's length on. -/
def tableEntry (amounts : List Int) (count : Int) : Int :=
  (amounts[(min (Int.ofNat amounts.length - 1) (count - 1)).toNat]?).getD 0

end Award

namespace Condition

def target (c : Condition) : Text :=
  if !c.givenNames.isEmpty then Text.joined "/" c.givenNames
  else if !c.givenTags.isEmpty then Text.joined " or " c.givenTags
  else "cards"

def scope (c : Condition) : Text := if c.sameTree then "in the same tree" else []

def extras (c : Condition) : Text :=
  let listed (set : Bool) (word : Text) : List Text := if set then [word] else []
  let position := c.position.getD []
  Text.joined ", "
    (listed c.unique "unique" ++ listed c.sameSymbol "same tree symbol" ++
      listed c.fullTree "full tree" ++ listed c.sameSpot "same spot" ++ listed c.most "most" ++
      listed (!position.isEmpty) (Text.joined "/" position))

def extrasNote (c : Condition) : Text :=
  if c.extras.isEmpty then [] else " (" ++ c.extras ++ ")"

def scopeNote (c : Condition) : Text :=
  if c.scope.isEmpty then [] else " " ++ c.scope

end Condition

namespace Award

def atLeast (n : Int) : Text := "at least " ++ Text.ofInt n

/-- The matches reach the least number, which is 1 if unset. -/
def isMet (least : Option Int) (n : Int) : Bool :=
  match least with
  | some m => m ≤ n
  | none => 0 < n

def fixed (amount : Int) (least : Option Int) (condition : Option Condition)
    (matched : Option Int) : Award :=
  match condition, matched with
  | some c, some n =>
    let details := Text.ofInt n ++ " matches, " ++ atLeast (least.getD 1) ++ " " ++ c.target ++
      c.scopeNote ++ c.extrasNote
    if isMet least n then ⟨amount, Text.ofInt amount ++ " fixed " ++ pointsWord amount ++ " (" ++ details ++ ")"⟩
    else ⟨0, amountText 0 ++ " (condition not met: " ++ details ++ ")"⟩
  | _, _ => ⟨amount, Text.ofInt amount ++ " fixed " ++ pointsWord amount⟩

def multiplication (amount : Int) (least : Option Int) (condition : Option Condition)
    (matched : Option Int) : Award :=
  match condition, matched with
  | some c, some n =>
    let counted := if least.any (n < ·) then 0 else n
    let details := (least.map atLeast).toList ++ (if c.scope.isEmpty then [] else [c.scope])
    let note : Text := if details.isEmpty then [] else " (" ++ Text.joined ", " details ++ ")"
    ⟨amount * counted, amountText amount ++ " per " ++ c.target ++ " · " ++ Text.ofInt counted ++
      note ++ c.extrasNote⟩
  | _, _ => noCondition

def table (amounts : List Int) (condition : Option Condition) (matched : Option Int) : Award :=
  match condition, matched with
  | some c, some n =>
    ⟨tableEntry amounts n, "Table: " ++ Text.ofInt n ++ " matches (" ++ c.target ++ c.scopeNote ++
      c.extrasNote ++ ")"⟩
  | _, _ => noCondition

end Award

namespace Rule

def award (r : Rule) (matched : Option Int) : Award :=
  match r.payout with
  | .fixed amount => Award.fixed amount r.min r.condition matched
  | .multiplication amount => Award.multiplication amount r.min r.condition matched
  | .table amounts => Award.table amounts r.condition matched

end Rule

namespace Layout

def award (layouts : List Layout) (layout : Layout) (g : TableGroups) (c : Instance) :
    StateM Standings Award := do
  match c.rule with
  | none => return .noEffect
  | some rule =>
    match rule.condition with
    | none => return rule.award none
    | some condition =>
      let n ← layout.countMatches layouts g c condition
      return rule.award (some (Int.ofNat n))

end Layout
end CardGrove
