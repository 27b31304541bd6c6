import CardGrove.Forest.Build
import CardGrove.Proofs.Forest.Arena
import Mathlib.Data.List.ProdSigma

/-! Direct placement. Every card that is no anchor either has one seat, a tree and a side at which
it fits and is centered, or fits directly nowhere and waits. -/
namespace CardGrove

theorem perm_flatMap_filter {α κ : Type} [DecidableEq κ] (key : α → κ) {keys : List κ}
    (hk : keys.Nodup) {xs : List α} (hx : ∀ x ∈ xs, key x ∈ keys) :
    (keys.flatMap fun k => xs.filter (key · = k)).Perm xs := by
  induction keys generalizing xs with
  | nil =>
    have : xs = [] := List.eq_nil_iff_forall_not_mem.2 fun x h => by simpa using hx x h
    simp [this]
  | cons k keys ih =>
    obtain ⟨hnot, hk⟩ := List.nodup_cons.1 hk
    have hrest : ∀ x ∈ xs.filter fun x => !decide (key x = k), key x ∈ keys := by
      intro x h
      obtain ⟨h, hne⟩ := List.mem_filter.1 h
      cases List.mem_cons.1 (hx x h) with
      | inl heq => simp [heq] at hne
      | inr h => exact h
    have hsame : (keys.flatMap fun k' => xs.filter (key · = k')) =
        keys.flatMap fun k' => (xs.filter fun x => !decide (key x = k)).filter (key · = k') := by
      refine List.flatMap_congr fun k' hk' => ?_
      rw [List.filter_filter]
      refine List.filter_congr fun x _ => ?_
      by_cases h : key x = k'
      · have hne : key x ≠ k := fun heq => hnot (heq ▸ h ▸ hk')
        simp [h ▸ hne, h]
      · simp [h]
    rw [List.flatMap_cons, hsame]
    exact ((ih hk hrest).append_left _).trans (List.filter_append_perm _ _)

namespace Side

theorem mem_growthOrder (s : Side) : s ∈ growthOrder := by
  cases s <;> decide

theorem mem_placementOrder (s : Side) : s ∈ placementOrder := by
  cases s <;> decide

end Side

namespace Slot

theorem better_eq_none {held new : Option Slot} :
    better held new = none ↔ held = none ∧ new = none := by
  cases new with
  | none => simp [better]
  | some s =>
    cases held with
    | none => simp [better, beats, Fit.beats]
    | some t =>
      simp only [better]
      split <;> simp

theorem better_eq_some {held new : Option Slot} {s : Slot} (h : better held new = some s) :
    held = some s ∨ new = some s := by
  cases new with
  | none => exact .inl h
  | some t =>
    simp only [better] at h
    split at h
    · exact .inr h
    · exact .inl h

variable {α : Type} {f : α → Option Slot}

theorem foldl_better_eq_none {xs : List α} {held : Option Slot} :
    xs.foldl (fun held x => better held (f x)) held = none ↔
      held = none ∧ ∀ x ∈ xs, f x = none := by
  induction xs generalizing held with
  | nil => simp
  | cons x xs ih => simp [ih, better_eq_none, and_assoc]

theorem foldl_better_eq_some {xs : List α} {held : Option Slot} {s : Slot}
    (h : xs.foldl (fun held x => better held (f x)) held = some s) :
    held = some s ∨ ∃ x ∈ xs, f x = some s := by
  induction xs generalizing held with
  | nil => exact .inl h
  | cons x xs ih =>
    cases ih h with
    | inl h =>
      cases better_eq_some h with
      | inl h => exact .inl h
      | inr h => exact .inr ⟨x, List.mem_cons_self, h⟩
    | inr h =>
      obtain ⟨y, hy, h⟩ := h
      exact .inr ⟨y, List.mem_cons_of_mem x hy, h⟩

theorem bestOf_eq_none {card anchor : Box} {n : Nat} :
    bestOf card anchor n = none ↔ ∀ s, Fit.direct card anchor s = none := by
  rw [bestOf, foldl_better_eq_none]
  simp only [true_and, Option.map_eq_none_iff]
  exact ⟨fun h s => h s s.mem_placementOrder, fun h s _ => h s⟩

theorem bestOf_eq_some {card anchor : Box} {n : Nat} {slot : Slot}
    (h : bestOf card anchor n = some slot) :
    slot.tree = n ∧ Fit.direct card anchor slot.side = some slot.fit := by
  cases foldl_better_eq_some h with
  | inl h => cases h
  | inr h =>
    obtain ⟨s, -, h⟩ := h
    obtain ⟨fit, hfit, rfl⟩ := Option.map_eq_some_iff.1 h
    exact ⟨rfl, hfit⟩

theorem best_eq_none {card : Box} {anchors : List Box} :
    best card anchors = none ↔ ∀ a ∈ anchors, ∀ s, Fit.direct card a s = none := by
  rw [best, foldl_better_eq_none]
  simp only [true_and, bestOf_eq_none]
  constructor
  · intro h a ha
    obtain ⟨n, hn, rfl⟩ := List.getElem_of_mem ha
    exact h (anchors[n], n) (List.mem_zipIdx_iff_getElem?.2 (by simp [hn]))
  · intro h p hp
    exact h p.1 (List.fst_mem_of_mem_zipIdx hp)

theorem best_eq_some {card : Box} {anchors : List Box} {slot : Slot}
    (h : best card anchors = some slot) :
    ∃ a, anchors[slot.tree]? = some a ∧ Fit.direct card a slot.side = some slot.fit := by
  cases foldl_better_eq_some h with
  | inl h => cases h
  | inr h =>
    obtain ⟨p, hp, h⟩ := h
    obtain ⟨htree, hfit⟩ := bestOf_eq_some h
    rw [htree]
    exact ⟨p.1, List.mem_zipIdx_iff_getElem?.1 hp, hfit⟩

end Slot

namespace Forest

def seat? (anchors : List Instance) (c : Instance) : Option (Nat × Side) :=
  (Slot.best c.box (anchors.map (·.box))).map fun slot => (slot.tree, slot.side)

theorem seatedAt_seatings (anchors cards : List Instance) (n : Nat) (s : Side) :
    seatedAt (seatings anchors cards) n s = cards.filter (seat? anchors · = some (n, s)) := by
  have hslot : ∀ slot? : Option Slot, (slot?.any fun slot => slot.tree = n ∧ slot.side = s) =
      decide (slot?.map (fun slot => (slot.tree, slot.side)) = some (n, s)) := by
    intro slot?
    cases slot? with
    | none => simp
    | some slot => simp
  simp only [seatedAt, seatings, List.filter_map, List.map_map]
  exact (List.map_id _).trans (List.filter_congr fun c _ => hslot _)

theorem unseated_seatings (anchors cards : List Instance) :
    unseated (seatings anchors cards) = cards.filter (seat? anchors · = none) := by
  have hslot : ∀ slot? : Option Slot, slot?.isNone =
      decide (slot?.map (fun slot => (slot.tree, slot.side)) = none) := by
    intro slot?
    cases slot? with
    | none => simp
    | some slot => simp
  simp only [unseated, seatings, List.filter_map, List.map_map]
  exact (List.map_id _).trans (List.filter_congr fun c _ => hslot _)

theorem seat?_lt {anchors : List Instance} {c : Instance} {p : Nat × Side}
    (h : seat? anchors c = some p) : p.1 < anchors.length := by
  obtain ⟨slot, hslot, rfl⟩ := Option.map_eq_some_iff.1 h
  obtain ⟨a, ha, -⟩ := Slot.best_eq_some hslot
  simpa using (List.getElem?_eq_some_iff.1 ha).1

theorem seat?_eq_none {anchors : List Instance} {c : Instance} :
    seat? anchors c = none ↔ ∀ a ∈ anchors, ∀ s, Fit.direct c.box a.box s = none := by
  rw [seat?, Option.map_eq_none_iff, Slot.best_eq_none]
  simp

theorem getElem?_seatedTrees (anchors : List Instance) (ss : List Seating) (n : Nat) :
    (seatedTrees anchors ss)[n]? = anchors[n]?.map fun a =>
      ⟨a, seatedAt ss n .top, seatedAt ss n .left, seatedAt ss n .right,
        seatedAt ss n .bottom⟩ := by
  simp [seatedTrees, List.getElem?_zipIdx, Function.comp_def]

theorem anchor_seatedTrees (anchors : List Instance) (ss : List Seating) :
    (seatedTrees anchors ss).map (·.anchor) = anchors := by
  rw [seatedTrees, List.map_map]
  exact List.zipIdx_map_fst 0 anchors

theorem side_of_seatedTrees {anchors : List Instance} {ss : List Seating} {n : Nat} {t : Tree}
    (h : (seatedTrees anchors ss)[n]? = some t) (s : Side) : t.side s = seatedAt ss n s := by
  rw [getElem?_seatedTrees] at h
  obtain ⟨a, -, rfl⟩ := Option.map_eq_some_iff.1 h
  cases s <;> rfl

theorem attachments_seatedTrees (anchors cards : List Instance) :
    (seatedTrees anchors (seatings anchors cards)).flatMap Tree.attachments =
      (List.range anchors.length ×ˢ Side.growthOrder).flatMap fun p =>
        cards.filter (seat? anchors · = some p) := by
  have hnums : List.range anchors.length = anchors.zipIdx.map (·.2) := by
    rw [List.zipIdx_map_snd, List.range_eq_range']
  change _ = List.flatMap _ (List.product _ _)
  rw [seatedTrees, hnums, List.product, List.flatMap_assoc, List.flatMap_map, List.flatMap_map]
  refine List.flatMap_congr fun p _ => ?_
  simp [Tree.attachments, seatedAt_seatings, Side.growthOrder]

theorem seated_perm (anchors cards : List Instance) :
    ((seatedTrees anchors (seatings anchors cards)).flatMap Tree.attachments ++
      unseated (seatings anchors cards)).Perm cards := by
  have hsides : Side.growthOrder.Nodup := by decide
  have hseats : ((List.range anchors.length ×ˢ Side.growthOrder).map some).Nodup :=
    (List.nodup_range.product hsides).map (Option.some_injective _)
  have hkeys : ((List.range anchors.length ×ˢ Side.growthOrder).map some ++ [none]).Nodup := by
    refine List.nodup_append.2 ⟨hseats, List.nodup_singleton none, ?_⟩
    intro a ha b hb
    obtain ⟨p, -, rfl⟩ := List.mem_map.1 ha
    simp [List.mem_singleton.1 hb]
  have hkey : ∀ c ∈ cards,
      seat? anchors c ∈ (List.range anchors.length ×ˢ Side.growthOrder).map some ++ [none] := by
    intro c _
    cases h : seat? anchors c with
    | none => simp
    | some p =>
      refine List.mem_append_left _ (List.mem_map_of_mem ?_)
      exact List.mem_product.2 ⟨List.mem_range.2 (seat?_lt h), p.2.mem_growthOrder⟩
  have hperm := perm_flatMap_filter (seat? anchors) hkeys hkey
  rw [List.flatMap_append, List.flatMap_map, List.flatMap_singleton] at hperm
  rw [attachments_seatedTrees, unseated_seatings]
  exact hperm

end Forest
end CardGrove
