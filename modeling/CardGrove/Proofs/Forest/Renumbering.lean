import CardGrove.Proofs.Forest.Expansion
import CardGrove.Proofs.Forest.Naturality
import Mathlib.Algebra.Order.BigOperators.Group.List

/-! Other numbers for the cards of an arena. A card's number only tells it from other cards, so if
different cards keep different numbers, the forest of the renumbered arena is the renumbered
forest. -/
namespace CardGrove

/-- The numbers of a list, then numbers beyond all of them. -/
def numbering (ns : List Nat) (k : Nat) : Nat := ns[k]?.getD (ns.sum + 1 + k)

theorem map_numbering_range (ns : List Nat) : (List.range ns.length).map (numbering ns) = ns := by
  refine List.ext_getElem (by simp) fun k hk hk' => ?_
  simp [numbering, hk']

theorem numbering_injective {ns : List Nat} (h : ns.Nodup) : Function.Injective (numbering ns) := by
  have hbeyond {k n : Nat} (hk : k < ns.length) : numbering ns k ≠ ns.sum + 1 + n := by
    have hle : ns[k] ≤ ns.sum := List.le_sum_of_mem (List.getElem_mem hk)
    simp only [numbering, List.getElem?_eq_getElem hk, Option.getD_some]
    omega
  intro k n heq
  by_cases hk : k < ns.length
  · by_cases hn : n < ns.length
    · have hsame : ns[k] = ns[n] := by simpa [numbering, hk, hn] using heq
      exact (h.getElem_inj_iff).1 hsame
    · exact absurd heq (by simpa [numbering, hn] using hbeyond hk)
  · by_cases hn : n < ns.length
    · exact absurd heq.symm (by simpa [numbering, hk] using hbeyond hn)
    · simpa [numbering, hk, hn] using heq

namespace Instance

def renumber (f : Nat → Nat) (c : Instance) : Instance := { c with index := f c.index }

theorem renumber_injective {f : Nat → Nat} (hf : Function.Injective f) :
    Function.Injective (renumber f) := by
  intro c d h
  have hindex : c.index = d.index := hf (congrArg index h)
  cases c
  cases d
  simp_all [renumber]

section

variable (f : Nat → Nat) (c : Instance) (cards : List Instance)

@[simp] theorem index_renumber : (c.renumber f).index = f c.index := rfl

theorem map_index_renumber :
    (cards.map (renumber f)).map (·.index) = (cards.map (·.index)).map f := by
  rw [List.map_map, List.map_map]
  rfl

theorem map_box_renumber : (cards.map (renumber f)).map (·.box) = cards.map (·.box) := by
  rw [List.map_map]
  rfl

end

theorem carries_renumber {f : Nat → Nat} (hf : Function.Injective f) (s : Side) :
    Carries f (renumber f) (fun box => box) s s where
  injective := hf
  index _ := rfl
  box _ := rfl
  adjacent _ _ := rfl

theorem read?_of_mem_resolve {catalog : Catalog} {ds : List Detection} {c : Instance}
    (h : c ∈ resolve catalog ds) : read? catalog c.index c.detection = some c := by
  rw [resolve_eq_filterMap] at h
  obtain ⟨i, -, hread⟩ := List.mem_filterMap.1 h
  obtain ⟨hindex, hdetection, -⟩ := read?_eq_some hread
  rw [hindex, hdetection]
  exact hread

theorem read?_renumber {catalog : Catalog} {n : Nat} {d : Detection} {c : Instance}
    (f : Nat → Nat) (h : read? catalog n d = some c) :
    read? catalog (f n) d = some (c.renumber f) := by
  obtain ⟨l, hl, rfl⟩ := Option.map_eq_some_iff.1 h
  rw [read?, hl]
  rfl

theorem isNamed_of_read? {catalog : Catalog} {n : Nat} {d : Detection} {c : Instance}
    (h : read? catalog n d = some c) : d.isNamed := by
  obtain ⟨l, hl, -⟩ := Option.map_eq_some_iff.1 h
  exact Detection.isNamed_of_parse hl

theorem eq_of_read? {catalog : Catalog} {cards cards' : List Instance}
    (h : ∀ c ∈ cards, read? catalog c.index c.detection = some c)
    (h' : ∀ c ∈ cards', read? catalog c.index c.detection = some c)
    (hindex : cards.map (·.index) = cards'.map (·.index))
    (hdetection : cards.map detection = cards'.map detection) : cards = cards' := by
  have hread (cs : List Instance) (hcs : ∀ c ∈ cs, read? catalog c.index c.detection = some c) :
      cs.map some = List.zipWith (read? catalog) (cs.map (·.index)) (cs.map detection) := by
    rw [List.zipWith_map, List.zipWith_self]
    exact List.map_congr_left fun c hc => (hcs c hc).symm
  refine List.map_injective_iff.2 (Option.some_injective Instance) ?_
  rw [hread cards h, hread cards' h', hindex, hdetection]

end Instance

open Instance (renumber)

namespace Tree

def renumber (f : Nat → Nat) (t : Tree) : Tree where
  anchor := t.anchor.renumber f
  top := t.top.map (.renumber f)
  left := t.left.map (.renumber f)
  right := t.right.map (.renumber f)
  bottom := t.bottom.map (.renumber f)

variable (f : Nat → Nat) (t : Tree)

theorem side_renumber (s : Side) : (t.renumber f).side s = (t.side s).map (.renumber f) := by
  cases s <;> rfl

theorem withSide_renumber (s : Side) (cards : List Instance) :
    (t.renumber f).withSide s (cards.map (.renumber f)) = (t.withSide s cards).renumber f := by
  cases s <;> rfl

theorem members_renumber : (t.renumber f).members = t.members.map (.renumber f) := by
  simp only [members, renumber, List.map_cons, List.map_append]

variable {f} (hf : Function.Injective f)

include hf

theorem growSide_renumber (s : Side) (waiting : List Instance) :
    (t.renumber f).growSide s (waiting.map (.renumber f)) =
      (t.growSide s waiting).map (Tree.renumber f) (List.map (.renumber f)) :=
  growSide_map (Instance.carries_renumber hf s) (fun _ => rfl) (fun t => t.side_renumber f s)
    (fun t cards => t.withSide_renumber f s cards) t waiting

theorem growSides_renumber (waiting : List Instance) (ss : List Side) :
    (t.renumber f).growSides (waiting.map (.renumber f)) ss =
      (t.growSides waiting ss).map (Tree.renumber f) (List.map (.renumber f)) := by
  induction ss generalizing t waiting with
  | nil => rfl
  | cons s ss ih =>
    rw [growSides_cons, growSides_cons, growSide_renumber t hf]
    exact ih _ _

end Tree

namespace Forest

def renumber (f : Nat → Nat) (forest : Forest) : Forest where
  arena := forest.arena.map (.renumber f)
  trees := forest.trees.map (.renumber f)

variable (f : Nat → Nat)

theorem members_renumber (forest : Forest) :
    (forest.renumber f).members = forest.members.map (.renumber f) := by
  rw [members, members, renumber, List.flatMap_map, List.map_flatMap]
  exact List.flatMap_congr fun t _ => t.members_renumber f

theorem seatings_renumber (anchors cards : List Instance) :
    seatings (anchors.map (.renumber f)) (cards.map (.renumber f)) =
      (seatings anchors cards).map fun s => (s.1.renumber f, s.2) := by
  rw [seatings, seatings, Instance.map_box_renumber, List.map_map, List.map_map]
  rfl

theorem seatedAt_renumber (ss : List Seating) (n : Nat) (s : Side) :
    seatedAt (ss.map fun s => (s.1.renumber f, s.2)) n s = (seatedAt ss n s).map (.renumber f) := by
  rw [seatedAt, seatedAt, List.filter_map, List.map_map, List.map_map]
  rfl

theorem unseated_renumber (ss : List Seating) :
    unseated (ss.map fun s => (s.1.renumber f, s.2)) = (unseated ss).map (.renumber f) := by
  rw [unseated, unseated, List.filter_map, List.map_map, List.map_map]
  rfl

theorem seatedTrees_renumber (anchors : List Instance) (ss : List Seating) :
    seatedTrees (anchors.map (.renumber f)) (ss.map fun s => (s.1.renumber f, s.2)) =
      (seatedTrees anchors ss).map (.renumber f) := by
  simp only [seatedTrees, List.zipIdx_map, List.map_map, seatedAt_renumber]
  rfl

variable {f} (hf : Function.Injective f)

include hf

theorem unattached_renumber (forest : Forest) :
    (forest.renumber f).unattached = forest.unattached.map (.renumber f) := by
  rw [unattached, members_renumber]
  exact Instance.without_map hf (Instance.index_renumber f) forest.members forest.arena

theorem growAll_renumber (waiting : List Instance) (ts : List Tree) :
    growAll (waiting.map (.renumber f)) (ts.map (.renumber f)) =
      (growAll waiting ts).map (.renumber f) := by
  induction ts generalizing waiting with
  | nil => rfl
  | cons t ts ih =>
    rw [List.map_cons, growAll, growAll, Tree.growSides_renumber t hf]
    exact congrArg _ (ih _)

theorem ofArena_renumber {isAnchor : Instance → Bool}
    (hanchor : ∀ c : Instance, isAnchor (c.renumber f) = isAnchor c) (arena : List Instance) :
    ofArena isAnchor (arena.map (.renumber f)) = (ofArena isAnchor arena).renumber f := by
  have hfilter (p : Bool → Bool) : (arena.map (Instance.renumber f)).filter (p <| isAnchor ·) =
      (arena.filter (p <| isAnchor ·)).map (.renumber f) := by
    rw [List.filter_map]
    exact congrArg _ (List.filter_congr fun c _ => congrArg p (hanchor c))
  have hanchors := hfilter id
  have hcards := hfilter not
  simp only [id] at hanchors
  rw [ofArena, hanchors, hcards, seatings_renumber, unseated_renumber, seatedTrees_renumber,
    growAll_renumber hf]
  rfl

end Forest
end CardGrove
