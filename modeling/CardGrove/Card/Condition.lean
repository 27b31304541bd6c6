import CardGrove.Text.Basic

/-! Conditions: which cards a score rule counts. -/
namespace CardGrove

/-- An absent list of names or tags is no filter; an empty one lets no card through. -/
structure Condition where
  names : Option (List Text) := none
  tags : Option (List Text) := none
  kind : Option Text := none
  unique : Bool := false
  sameTree : Bool := false
  sameSymbol : Bool := false
  fullTree : Bool := false
  most : Bool := false
  sameSpot : Bool := false
  position : Option (List Text) := none
  deriving DecidableEq, Repr

namespace Condition

def belowPosition : Text := "below"

def below (c : Condition) : Bool := (c.position.getD []).contains belowPosition

/-- The names that a condition lists, empty ones left out. -/
def givenNames (c : Condition) : List Text := (c.names.getD []).filter (· ≠ [])

def givenTags (c : Condition) : List Text := (c.tags.getD []).filter (· ≠ [])

end Condition
end CardGrove
