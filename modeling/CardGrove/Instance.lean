import CardGrove.Box
import CardGrove.Catalog.Basic
import CardGrove.Label

/-! Detected cards, and the arena of instances that they are read into. Every later map over the
cards of a player is keyed by a card's place in that arena. -/
namespace CardGrove

/-- What the recogniser delivers for one card. The label is absent when it is not a text. -/
structure Sighting where
  box : Box
  label : Option Text
  deriving DecidableEq

structure Detection where
  box : Box
  label : Text
  deriving DecidableEq

def Sighting.detection? (s : Sighting) : Option Detection := s.label.map (⟨s.box, ·⟩)

structure Instance where
  index : Nat
  box : Box
  label : Text
  id : Text
  symbol : Text
  definition : Option Definition := none
  deriving DecidableEq

namespace Instance

def jokerKind (c : Instance) : Option Text := c.definition.bind (·.joker)

def isJoker (c : Instance) : Bool := c.jokerKind.isSome

def tags (c : Instance) : List Text := (c.definition.map (·.tags)).getD []

def kind (c : Instance) : Option Text := c.definition.bind (·.kind)

def rule (c : Instance) : Option Rule := c.definition.bind (·.score)

/-- The instances of a list of detections, numbered from `next`; a label without a colon is
passed over. -/
def resolveFrom (catalog : Catalog) (next : Nat) : List Detection → List Instance
  | [] => []
  | d :: ds =>
    match Label.parse d.label with
    | none => resolveFrom catalog next ds
    | some l =>
      ⟨next, d.box, d.label, l.id, l.symbol, catalog.get? l.id⟩ ::
        resolveFrom catalog (next + 1) ds

def resolve (catalog : Catalog) (ds : List Detection) : List Instance := resolveFrom catalog 0 ds

end Instance
end CardGrove
