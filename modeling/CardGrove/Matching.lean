import CardGrove.Interval
import CardGrove.Layout

/-! Which cards of a layout a condition counts for a card: the pool that its scope looks at, and
the filters that a card of the pool must pass. -/
namespace CardGrove

namespace Condition

/-- A joker of the condition's type passes; any other card passes every filter that is set. -/
def accepts (condition : Condition) (self other : Instance) : Bool :=
  condition.kind.any (other.jokerKind = some ·) ||
    (condition.names.all (·.contains other.id) &&
      condition.tags.all (·.any other.tags.contains) &&
      condition.kind.all (other.kind = some ·) &&
      (!condition.sameSymbol || other.symbol = self.symbol))

def select (condition : Condition) (self : Instance) (pool : List Instance) : List Instance :=
  pool.filter (condition.accepts self)

end Condition

namespace Instance

/-- The other card lies below this one: it begins under this card's lower edge and shares some
extent with it on the x axis. -/
def isBelow (other self : Instance) : Bool :=
  self.box.y2 ≤ other.box.y1 && zeroLength < other.box.sharedX self.box

end Instance

namespace Layout

/-- The cards that a condition looks at for a card. There are none to look at, rather than an
empty list, where the scope cannot apply: a tree for an unattached card, a spot for an anchor. -/
def pool? (layout : Layout) (c : Instance) (condition : Condition) : Option (List Instance) :=
  let placement := layout.placements.get? c
  if condition.sameTree then
    placement.map fun p =>
      if c.index = p.tree.anchor.index then p.tree.attachments
      else p.tree.anchor :: p.tree.attachments
  else if condition.sameSpot then
    placement.bind fun p => p.side.map p.tree.side
  else if condition.below then
    some (layout.instances.filter (·.isBelow c))
  else some layout.instances

end Layout
end CardGrove
