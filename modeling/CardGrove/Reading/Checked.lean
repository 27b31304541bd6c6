import CardGrove.Json.Basic

/-! Values read from a document, or everything that is wrong with it. Readings are combined so
that no issue hides another one. -/
namespace CardGrove

inductive Step where
  | key (name : Text)
  | item (position : Nat)
  deriving DecidableEq, Repr

inductive Fault where
  | missing
  | notText
  | notFlag
  | notInteger
  | notNumber
  | notNumeral
  | notList
  | notObject
  | notRule
  | notJson
  deriving DecidableEq, Repr

/-- A fault, where it is, and the value that was found there; for a missing member that is the
object that lacks it. -/
structure Issue where
  path : List Step
  fault : Fault
  found : Json

inductive Checked (α : Type) where
  | ok (a : α)
  | bad (issues : List Issue)

namespace Checked
variable {α β : Type}

def refuse (f : Fault) (found : Json) : Checked α := bad [⟨[], f, found⟩]

def ofOption (f : Fault) (found : Json) (a : Option α) : Checked α :=
  match a with
  | some a => ok a
  | none => refuse f found

def below (step : Step) : Checked α → Checked α
  | ok a => ok a
  | bad issues => bad (issues.map fun i => { i with path := step :: i.path })

def map (f : α → β) : Checked α → Checked β
  | ok a => ok (f a)
  | bad issues => bad issues

def both (f : Checked (α → β)) (a : Checked α) : Checked β :=
  match f, a with
  | ok f, ok a => ok (f a)
  | ok _, bad is => bad is
  | bad is, ok _ => bad is
  | bad is, bad js => bad (is ++ js)

instance : Applicative Checked where
  pure := ok
  map := map
  seq f a := both f (a ())

def allFrom (read : α → Checked β) (n : Nat) : List α → Checked (List β)
  | [] => ok []
  | a :: as => both (map List.cons (below (.item n) (read a))) (allFrom read (n + 1) as)

end Checked
end CardGrove
