import CardGrove.Proofs.Forest.Growth
import CardGrove.Proofs.Forest.Seating

/-! Growth of all sides of all trees from one pool of waiting cards. Every side grows once, from
the cards that the sides before it left, and what no side takes is left at the end. -/
namespace CardGrove

open Instance (Indexed grow)

namespace Tree

def line (t : Tree) (s : Side) : List Box := t.anchor.box :: (t.side s).map (·.box)

/-- From one tree to the next a side took what it reached of some cards of a pool, and none of the
cards `left` has been reached by it. -/
def GrewOn (s : Side) (t t' : Tree) (pool left : List Instance) : Prop :=
  ∃ waiting, waiting.Sublist pool ∧
    t'.side s = t.side s ++ (grow s (t.line s) waiting).1 ∧
    ∀ c ∈ left, c ∈ (grow s (t.line s) waiting).2

theorem GrewOn.mono {s : Side} {t t' : Tree} {pool pool' left left' : List Instance}
    (h : GrewOn s t t' pool left) (hpool : pool.Sublist pool') (hleft : ∀ c ∈ left', c ∈ left) :
    GrewOn s t t' pool' left' := by
  obtain ⟨waiting, hw, hside, hrest⟩ := h
  exact ⟨waiting, hw.trans hpool, hside, fun c hc => hrest c (hleft c hc)⟩

theorem anchor_growSide (t : Tree) (s : Side) (waiting : List Instance) :
    (t.growSide s waiting).1.anchor = t.anchor :=
  anchor_withSide t s _

theorem side_growSide_self (t : Tree) (s : Side) (waiting : List Instance) :
    (t.growSide s waiting).1.side s = t.side s ++ (grow s (t.line s) waiting).1 :=
  (side_withSide t s s _).trans (if_pos rfl)

theorem side_growSide_of_ne (t : Tree) {s s' : Side} (h : s' ≠ s) (waiting : List Instance) :
    (t.growSide s waiting).1.side s' = t.side s' :=
  (side_withSide t s s' _).trans (if_neg h)

theorem growSide_snd (t : Tree) (s : Side) (waiting : List Instance) :
    (t.growSide s waiting).2 = (grow s (t.line s) waiting).2 := rfl

theorem growSide_snd_sublist (t : Tree) (s : Side) (waiting : List Instance) :
    (t.growSide s waiting).2.Sublist waiting := by
  rw [growSide_snd, Instance.grow_snd]
  exact List.filter_sublist

theorem perm_attachments_withSide (t : Tree) (s : Side) (new : List Instance) :
    (t.withSide s (t.side s ++ new)).attachments.Perm (t.attachments ++ new) := by
  refine List.perm_iff_count.2 fun c => ?_
  cases s with
  | top | bottom | left | right =>
    simp only [attachments, withSide, side, List.count_append]
    omega

theorem growSide_perm (t : Tree) (s : Side) {waiting : List Instance} (h : Indexed waiting) :
    ((t.growSide s waiting).1.attachments ++ (t.growSide s waiting).2).Perm
      (t.attachments ++ waiting) := by
  have hside := perm_attachments_withSide t s (grow s (t.line s) waiting).1
  refine (hside.append_right _).trans ?_
  rw [List.append_assoc]
  exact (Instance.grow_perm s (t.line s) h).append_left _

theorem growSides_cons (t : Tree) (s : Side) (ss : List Side) (waiting : List Instance) :
    t.growSides waiting (s :: ss) =
      (t.growSide s waiting).1.growSides (t.growSide s waiting).2 ss := rfl

theorem anchor_growSides (t : Tree) (waiting : List Instance) (ss : List Side) :
    (t.growSides waiting ss).1.anchor = t.anchor := by
  induction ss generalizing t waiting with
  | nil => rfl
  | cons s ss ih => rw [growSides_cons, ih, anchor_growSide]

theorem growSides_snd_sublist (t : Tree) (waiting : List Instance) (ss : List Side) :
    (t.growSides waiting ss).2.Sublist waiting := by
  induction ss generalizing t waiting with
  | nil => exact List.Sublist.refl waiting
  | cons s ss ih => exact (ih _ _).trans (growSide_snd_sublist t s waiting)

theorem growSides_perm (t : Tree) {waiting : List Instance} (h : Indexed waiting)
    (ss : List Side) :
    ((t.growSides waiting ss).1.attachments ++ (t.growSides waiting ss).2).Perm
      (t.attachments ++ waiting) := by
  induction ss generalizing t waiting with
  | nil => exact List.Perm.refl _
  | cons s ss ih =>
    rw [growSides_cons]
    exact (ih _ (h.sublist (growSide_snd_sublist t s waiting))).trans (growSide_perm t s h)

theorem side_growSides_of_notMem (t : Tree) (waiting : List Instance) {ss : List Side} {s : Side}
    (h : s ∉ ss) : (t.growSides waiting ss).1.side s = t.side s := by
  induction ss generalizing t waiting with
  | nil => rfl
  | cons s' ss ih =>
    obtain ⟨hne, hnot⟩ := List.ne_and_not_mem_of_not_mem_cons h
    rw [growSides_cons, ih _ _ hnot, side_growSide_of_ne t hne]

theorem grewOn_growSides (t : Tree) (waiting : List Instance) {ss : List Side} (hss : ss.Nodup) :
    ∀ s ∈ ss, GrewOn s t (t.growSides waiting ss).1 waiting (t.growSides waiting ss).2 := by
  induction ss generalizing t waiting with
  | nil => exact fun s hs => absurd hs List.not_mem_nil
  | cons s ss ih =>
    obtain ⟨hnot, hss⟩ := List.nodup_cons.1 hss
    rw [growSides_cons]
    have hsub := growSides_snd_sublist (t.growSide s waiting).1 (t.growSide s waiting).2 ss
    intro s' hs'
    by_cases heq : s' = s
    · -- the sides that grow later leave this one as it is
      rw [heq]
      refine ⟨waiting, List.Sublist.refl waiting, ?_, fun c hc => hsub.subset hc⟩
      rw [side_growSides_of_notMem _ _ hnot, side_growSide_self]
    · have hs' := List.mem_of_ne_of_mem heq hs'
      obtain ⟨pool, hpool, hside, hrest⟩ :=
        ih (t.growSide s waiting).1 (t.growSide s waiting).2 hss s' hs'
      have hline : (t.growSide s waiting).1.line s' = t.line s' := by
        rw [line, line, anchor_growSide, side_growSide_of_ne t heq]
      rw [hline] at hside hrest
      rw [side_growSide_of_ne t heq] at hside
      exact ⟨pool, hpool.trans (growSide_snd_sublist t s waiting), hside, hrest⟩

end Tree

namespace Forest

def leftover (waiting : List Instance) : List Tree → List Instance
  | [] => waiting
  | t :: ts => leftover (t.growSides waiting Side.growthOrder).2 ts

theorem leftover_sublist (waiting : List Instance) (ts : List Tree) :
    (leftover waiting ts).Sublist waiting := by
  induction ts generalizing waiting with
  | nil => exact List.Sublist.refl waiting
  | cons t ts ih => exact (ih _).trans (Tree.growSides_snd_sublist t waiting _)

theorem anchor_growAll (waiting : List Instance) (ts : List Tree) :
    (growAll waiting ts).map (·.anchor) = ts.map (·.anchor) := by
  induction ts generalizing waiting with
  | nil => rfl
  | cons t ts ih => simp only [growAll, List.map_cons, ih, Tree.anchor_growSides]

theorem growAll_perm {waiting : List Instance} (h : Indexed waiting) (ts : List Tree) :
    ((growAll waiting ts).flatMap Tree.attachments ++ leftover waiting ts).Perm
      (ts.flatMap Tree.attachments ++ waiting) := by
  induction ts generalizing waiting with
  | nil => exact List.Perm.refl _
  | cons t ts ih =>
    have hstep := Tree.growSides_perm t h Side.growthOrder
    have hrest := ih (h.sublist (Tree.growSides_snd_sublist t waiting Side.growthOrder))
    refine List.perm_iff_count.2 fun c => ?_
    have hstep := hstep.count_eq c
    have hrest := hrest.count_eq c
    simp only [growAll, leftover, List.flatMap_cons, List.count_append] at hstep hrest ⊢
    omega

/-- Every side of every tree has grown from the pool and has reached none of the cards that are
left at the end. -/
theorem grewOn_growAll {waiting : List Instance} {ts : List Tree} {n : Nat} {t' : Tree}
    (h : (growAll waiting ts)[n]? = some t') :
    ∃ t, ts[n]? = some t ∧ t'.anchor = t.anchor ∧
      ∀ s, Tree.GrewOn s t t' waiting (leftover waiting ts) := by
  induction ts generalizing waiting n with
  | nil => cases h
  | cons t ts ih =>
    have hsub := Tree.growSides_snd_sublist t waiting Side.growthOrder
    cases n with
    | zero =>
      have heq : (t.growSides waiting Side.growthOrder).1 = t' := Option.some.inj h
      refine ⟨t, rfl, heq ▸ Tree.anchor_growSides t waiting _, fun s => ?_⟩
      have hgrew := Tree.grewOn_growSides t waiting (by decide) s s.mem_growthOrder
      rw [heq] at hgrew
      exact hgrew.mono (List.Sublist.refl waiting) (leftover_sublist _ ts).subset
    | succ n =>
      have hrest : (growAll (t.growSides waiting Side.growthOrder).2 ts)[n]? = some t' := h
      obtain ⟨u, hu, hanchor, hgrew⟩ := ih hrest
      exact ⟨u, hu, hanchor, fun s => (hgrew s).mono hsub fun c hc => hc⟩

end Forest
end CardGrove
