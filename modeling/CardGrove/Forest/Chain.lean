import CardGrove.Distinct
import CardGrove.Fit
import CardGrove.Instance

/-! Chain growth: cards that touch a card on a side join that side, so that a side can grow into
a line although only its first card is near the anchor. -/
namespace CardGrove

namespace Instance

def adjacentTo (origin : Box) (side : Side) (cards : List Instance) : List (Instance × Scalar) :=
  cards.filterMap fun c => (Fit.adjacent c.box origin side).map fun f => (c, f.gap)

def leastGap (first : Scalar) (rest : List (Instance × Scalar)) : Scalar :=
  rest.foldl (fun g c => smaller g c.2) first

/-- Of the cards adjacent to a box, those within touching distance of the nearest one. -/
def nearestTo (origin : Box) (side : Side) (cards : List Instance) : List Instance :=
  match adjacentTo origin side cards with
  | [] => []
  | first :: rest =>
    ((first :: rest).filter fun c => c.2 ≤ leastGap first.2 rest + touchTolerance).map (·.1)

theorem nearestTo_subset (origin : Box) (side : Side) (cards : List Instance) :
    nearestTo origin side cards ⊆ cards := by
  intro c hc
  rw [nearestTo] at hc
  split at hc
  · cases hc
  · next first rest h =>
    obtain ⟨⟨c', g⟩, hm, rfl⟩ := List.mem_map.1 hc
    have hm := (List.mem_filter.1 hm).1
    rw [← h, adjacentTo, List.mem_filterMap] at hm
    obtain ⟨d, hd, hf⟩ := hm
    obtain ⟨f, -, hf⟩ := Option.map_eq_some_iff.1 hf
    obtain rfl : d = c' := congrArg Prod.fst hf
    exact hd

/-- One round of growth: the cards nearest to any box of the chain, each once. -/
def reached (chain : List Box) (side : Side) (remaining : List Instance) : List Instance :=
  distinctBy (·.index) (chain.flatMap fun box => nearestTo box side remaining)

theorem reached_subset (chain : List Box) (side : Side) (remaining : List Instance) :
    reached chain side remaining ⊆ remaining := by
  intro c hc
  obtain ⟨box, -, h⟩ := List.mem_flatMap.1 ((distinctBy_sublist _ _).subset hc)
  exact nearestTo_subset box side remaining h

def without (taken cards : List Instance) : List Instance :=
  cards.filter fun c => c.index ∉ taken.map (·.index)

theorem length_without_lt {taken cards : List Instance} (hne : taken ≠ [])
    (hs : taken ⊆ cards) : (without taken cards).length < cards.length := by
  obtain ⟨c, hc⟩ := List.exists_mem_of_ne_nil taken hne
  rcases Nat.lt_or_ge (without taken cards).length cards.length with h | h
  · exact h
  · have heq := List.filter_eq_self.1 (List.filter_sublist.eq_of_length_le h) c (hs hc)
    exact absurd (List.mem_map.2 ⟨c, hc, rfl⟩) (of_decide_eq_true heq)

/-- Rounds of growth until a round reaches nothing: the cards in the order they joined, and the
cards that remain. -/
def grow (side : Side) (chain : List Box) (remaining : List Instance) :
    List Instance × List Instance :=
  let new := reached chain side remaining
  if _h : new = [] then ([], remaining)
  else
    let (more, left) := grow side (chain ++ new.map (·.box)) (without new remaining)
    (new ++ more, left)
termination_by remaining.length
decreasing_by exact length_without_lt _h (reached_subset chain side remaining)

end Instance
end CardGrove
