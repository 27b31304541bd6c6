import CardGrove.Distinct
import CardGrove.Instance
import CardGrove.Side

/-! Trees and forests. A tree is an anchor card with a list of cards on each side; a forest is
the arena of a player's cards with the trees they form. -/
namespace CardGrove

structure Tree where
  anchor : Instance
  top : List Instance := []
  left : List Instance := []
  right : List Instance := []
  bottom : List Instance := []
  deriving DecidableEq

namespace Tree

def side (t : Tree) : Side → List Instance
  | .top => t.top
  | .bottom => t.bottom
  | .left => t.left
  | .right => t.right

def withSide (t : Tree) (s : Side) (cards : List Instance) : Tree :=
  match s with
  | .top => { t with top := cards }
  | .bottom => { t with bottom := cards }
  | .left => { t with left := cards }
  | .right => { t with right := cards }

def attachments (t : Tree) : List Instance := t.top ++ t.bottom ++ t.left ++ t.right

def members (t : Tree) : List Instance := t.anchor :: (t.top ++ t.left ++ t.right ++ t.bottom)

def isFull (t : Tree) : Bool :=
  !t.top.isEmpty && !t.left.isEmpty && !t.bottom.isEmpty && !t.right.isEmpty

theorem side_withSide (t : Tree) (s s' : Side) (cards : List Instance) :
    (t.withSide s cards).side s' = if s' = s then cards else t.side s' := by
  cases s <;> cases s' <;> rfl

theorem anchor_withSide (t : Tree) (s : Side) (cards : List Instance) :
    (t.withSide s cards).anchor = t.anchor := by
  cases s <;> rfl

theorem mem_members {t : Tree} {c : Instance} :
    c ∈ t.members ↔ c = t.anchor ∨ ∃ s, c ∈ t.side s := by
  simp only [members, List.mem_cons, List.mem_append]
  constructor
  · rintro (h | (((h | h) | h) | h))
    · exact .inl h
    · exact .inr ⟨.top, h⟩
    · exact .inr ⟨.left, h⟩
    · exact .inr ⟨.right, h⟩
    · exact .inr ⟨.bottom, h⟩
  · rintro (h | ⟨s, h⟩)
    · exact .inl h
    · cases s <;> simp_all [side]

theorem mem_attachments {t : Tree} {c : Instance} :
    c ∈ t.attachments ↔ ∃ s, c ∈ t.side s := by
  simp only [attachments, List.mem_append]
  constructor
  · rintro (((h | h) | h) | h)
    · exact ⟨.top, h⟩
    · exact ⟨.bottom, h⟩
    · exact ⟨.left, h⟩
    · exact ⟨.right, h⟩
  · rintro ⟨s, h⟩
    cases s <;> simp_all [side]

end Tree

structure Forest where
  arena : List Instance := []
  trees : List Tree := []
  deriving DecidableEq

namespace Forest

/-- The members of all trees, trees in build order. A card may be listed more than once. -/
def members (f : Forest) : List Instance := f.trees.flatMap Tree.members

/-- Every card once in scoring order: the members of the trees, then the rest of the arena. -/
def scoringOrder (f : Forest) : List Instance := distinctBy (·.index) (f.members ++ f.arena)

def unattached (f : Forest) : List Instance :=
  f.arena.filter fun c => c.index ∉ f.members.map (·.index)

end Forest
end CardGrove
