import CardGrove.Card.Condition

/-! Definitions of cards: tags, a type, a score rule, and the type that a joker stands in for. -/
namespace CardGrove

/-- What a rule awards. A table gives its first entry for one match. -/
inductive Payout where
  | fixed (amount : Int)
  | multiplication (amount : Int)
  | table (amounts : List Int)
  deriving DecidableEq, Repr

structure Rule where
  payout : Payout
  min : Option Int := none
  condition : Option Condition := none
  deriving DecidableEq, Repr

namespace Rule

def isTable (r : Rule) : Bool :=
  match r.payout with
  | .table _ => true
  | _ => false

end Rule

/-- A joker stands in for any card of the type `joker`. -/
structure Definition where
  id : Text
  tags : List Text := []
  kind : Option Text := none
  score : Option Rule := none
  joker : Option Text := none
  deriving DecidableEq, Repr

end CardGrove
