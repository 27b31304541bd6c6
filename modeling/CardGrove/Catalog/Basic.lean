import CardGrove.Card.Definition
import CardGrove.Distinct

/-! Catalogs: card definitions by id. The first definition of an id counts, and what it is tagged
with decides whether cards of that id are anchors. -/
namespace CardGrove

structure Catalog where
  definitions : List Definition
  anchorIds : List Text
  deriving DecidableEq, Repr

namespace Catalog

def anchorTag : Text := "Tree"

def ofDefinitions (cards : List Definition) : Catalog :=
  let kept := distinctBy (·.id) cards
  ⟨kept, (kept.filter fun d => d.tags.contains anchorTag).map (·.id)⟩

def get? (catalog : Catalog) (id : Text) : Option Definition :=
  catalog.definitions.find? (·.id = id)

def isAnchor (catalog : Catalog) (id : Text) : Bool := catalog.anchorIds.contains id

def size (catalog : Catalog) : Nat := catalog.definitions.length

end Catalog
end CardGrove
