import CardGrove.Proofs.Forest.Maximality

/-! Two arenas that differ in the order of their cards. Where a card goes depends on its box alone,
so both forests grow in step: at every moment a side, or the pool, of one holds exactly the boxes
that it holds in the other. -/
namespace CardGrove

open Instance (Indexed grow Joins)

/-- Among the cards `cards` and `cards'` the same boxes are chosen for `part` and for `part'`. -/
def Agree (cards cards' part part' : List Instance) : Prop :=
  ∃ chosen : Box → Prop, (∀ c, c ∈ part ↔ c ∈ cards ∧ chosen c.box) ∧
    ∀ c, c ∈ part' ↔ c ∈ cards' ∧ chosen c.box

def SameBoxes (cards cards' : List Instance) : Prop :=
  ∀ b, (∃ c ∈ cards, c.box = b) ↔ ∃ c ∈ cards', c.box = b

variable {cards cards' : List Instance}

namespace Agree

variable {part part' more more' : List Instance}

theorem subset (h : Agree cards cards' part part') :
    (∀ c ∈ part, c ∈ cards) ∧ ∀ c ∈ part', c ∈ cards' := by
  obtain ⟨chosen, hpart, hpart'⟩ := h
  exact ⟨fun c hc => ((hpart c).1 hc).1, fun c hc => ((hpart' c).1 hc).1⟩

theorem mem_iff (h : Agree cards cards' part part') {c c' : Instance} (hc : c ∈ cards)
    (hc' : c' ∈ cards') (hbox : c.box = c'.box) : c ∈ part ↔ c' ∈ part' := by
  obtain ⟨chosen, hpart, hpart'⟩ := h
  rw [hpart, hpart', hbox]
  simp [hc, hc']

theorem sameBoxes (h : Agree cards cards' part part') (hsame : SameBoxes cards cards') :
    SameBoxes part part' := by
  obtain ⟨chosen, hpart, hpart'⟩ := h
  intro b
  constructor
  · rintro ⟨c, hc, rfl⟩
    obtain ⟨hmem, hchosen⟩ := (hpart c).1 hc
    obtain ⟨c', hc', hbox⟩ := (hsame c.box).1 ⟨c, hmem, rfl⟩
    exact ⟨c', (hpart' c').2 ⟨hc', hbox ▸ hchosen⟩, hbox⟩
  · rintro ⟨c', hc', rfl⟩
    obtain ⟨hmem, hchosen⟩ := (hpart' c').1 hc'
    obtain ⟨c, hc, hbox⟩ := (hsame c'.box).2 ⟨c', hmem, rfl⟩
    exact ⟨c, (hpart c).2 ⟨hc, hbox ▸ hchosen⟩, hbox⟩

theorem append (h : Agree cards cards' part part') (hmore : Agree cards cards' more more') :
    Agree cards cards' (part ++ more) (part' ++ more') := by
  obtain ⟨chosen, hpart, hpart'⟩ := h
  obtain ⟨chosen', hmore, hmore'⟩ := hmore
  refine ⟨fun b => chosen b ∨ chosen' b, fun c => ?_, fun c => ?_⟩
  · rw [List.mem_append, hpart, hmore, ← and_or_left]
  · rw [List.mem_append, hpart', hmore', ← and_or_left]

theorem filter (key : Box → Bool) :
    Agree cards cards' (cards.filter (key ·.box)) (cards'.filter (key ·.box)) :=
  ⟨fun b => key b, fun _ => List.mem_filter, fun _ => List.mem_filter⟩

end Agree

def Tree.Agree (cards cards' : List Instance) (t t' : Tree) : Prop :=
  t.anchor.box = t'.anchor.box ∧ ∀ s, CardGrove.Agree cards cards' (t.side s) (t'.side s)

theorem Tree.Agree.line {t t' : Tree} (h : t.Agree cards cards' t')
    (hsame : SameBoxes cards cards') (s : Side) (b : Box) : b ∈ t.line s ↔ b ∈ t'.line s := by
  have hside := (h.2 s).sameBoxes hsame b
  simp only [Tree.line, List.mem_cons, List.mem_map, h.1, hside]

section Step

variable {waiting waiting' : List Instance} (hsame : SameBoxes cards cards')
  (hd : ∀ c ∈ cards, c.box.hasDoubleEdges) (hd' : ∀ c ∈ cards', c.box.hasDoubleEdges)

include hsame hd hd'

theorem agree_grow (hw : Agree cards cards' waiting waiting')
    (hi : Indexed waiting) (hi' : Indexed waiting') {chain chain' : List Box}
    (hchain : ∀ b, b ∈ chain ↔ b ∈ chain') (s : Side) :
    Agree cards cards' (grow s chain waiting).1 (grow s chain' waiting').1 ∧
      Agree cards cards' (grow s chain waiting).2 (grow s chain' waiting').2 := by
  have hwd : ∀ c ∈ waiting, c.box.hasDoubleEdges := fun c hc => hd c (hw.subset.1 c hc)
  have hwd' : ∀ c ∈ waiting', c.box.hasDoubleEdges := fun c hc => hd' c (hw.subset.2 c hc)
  have horigins : (· ∈ chain) = (· ∈ chain') := funext fun b => propext (hchain b)
  have hpool : (fun b => ∃ c ∈ waiting, c.box = b) = fun b => ∃ c ∈ waiting', c.box = b :=
    funext fun b => propext (hw.sameBoxes hsame b)
  have hmem := fun c => @Instance.mem_grow_iff s chain waiting hi hwd c
  have hmem' := fun c => @Instance.mem_grow_iff s chain' waiting' hi' hwd' c
  have hleft := fun c => @Instance.mem_grow_snd_iff s chain waiting hi hwd c
  have hleft' := fun c => @Instance.mem_grow_snd_iff s chain' waiting' hi' hwd' c
  rw [← horigins, ← hpool] at hmem' hleft'
  obtain ⟨chosen, hpart, hpart'⟩ := hw
  constructor
  · refine ⟨fun b => chosen b ∧ Joins s (· ∈ chain) (fun b => ∃ c ∈ waiting, c.box = b) b,
      fun c => ?_, fun c => ?_⟩
    · rw [hmem, hpart, and_assoc]
    · rw [hmem', hpart', and_assoc]
  · refine ⟨fun b => chosen b ∧ ¬Joins s (· ∈ chain) (fun b => ∃ c ∈ waiting, c.box = b) b,
      fun c => ?_, fun c => ?_⟩
    · rw [hleft, hpart, and_assoc]
    · rw [hleft', hpart', and_assoc]

theorem agree_growSide {t t' : Tree} (ht : t.Agree cards cards' t')
    (hw : Agree cards cards' waiting waiting') (hi : Indexed waiting) (hi' : Indexed waiting')
    (s : Side) :
    (t.growSide s waiting).1.Agree cards cards' (t'.growSide s waiting').1 ∧
      Agree cards cards' (t.growSide s waiting).2 (t'.growSide s waiting').2 := by
  obtain ⟨hnew, hleft⟩ := agree_grow hsame hd hd' hw hi hi' (ht.line hsame s) s
  refine ⟨⟨?_, fun s' => ?_⟩, hleft⟩
  · rw [Tree.anchor_growSide, Tree.anchor_growSide]
    exact ht.1
  · by_cases h : s' = s
    · rw [h, Tree.side_growSide_self, Tree.side_growSide_self]
      exact (ht.2 s).append hnew
    · rw [Tree.side_growSide_of_ne t h, Tree.side_growSide_of_ne t' h]
      exact ht.2 s'

theorem agree_growSides {t t' : Tree} (ht : t.Agree cards cards' t')
    (hw : Agree cards cards' waiting waiting') (hi : Indexed waiting) (hi' : Indexed waiting')
    (ss : List Side) :
    (t.growSides waiting ss).1.Agree cards cards' (t'.growSides waiting' ss).1 ∧
      Agree cards cards' (t.growSides waiting ss).2 (t'.growSides waiting' ss).2 := by
  induction ss generalizing t t' waiting waiting' with
  | nil => exact ⟨ht, hw⟩
  | cons s ss ih =>
    obtain ⟨ht, hw⟩ := agree_growSide hsame hd hd' ht hw hi hi' s
    exact ih ht hw (hi.sublist (Tree.growSide_snd_sublist _ s _))
      (hi'.sublist (Tree.growSide_snd_sublist _ s _))

theorem agree_growAll {ts ts' : List Tree}
    (hts : List.Forall₂ (Tree.Agree cards cards') ts ts')
    (hw : Agree cards cards' waiting waiting') (hi : Indexed waiting) (hi' : Indexed waiting') :
    List.Forall₂ (Tree.Agree cards cards') (Forest.growAll waiting ts)
        (Forest.growAll waiting' ts') ∧
      Agree cards cards' (Forest.leftover waiting ts) (Forest.leftover waiting' ts') := by
  induction hts generalizing waiting waiting' with
  | nil => exact ⟨.nil, hw⟩
  | cons ht _ ih =>
    obtain ⟨ht, hw⟩ := agree_growSides hsame hd hd' ht hw hi hi' Side.growthOrder
    obtain ⟨hts, hleft⟩ := ih hw (hi.sublist (Tree.growSides_snd_sublist _ _ _))
      (hi'.sublist (Tree.growSides_snd_sublist _ _ _))
    exact ⟨.cons ht hts, hleft⟩

end Step

theorem agree_seatedAt {anchors anchors' : List Instance}
    (h : anchors.map (·.box) = anchors'.map (·.box)) (n : Nat) (s : Side) :
    Agree cards cards' (Forest.seatedAt (Forest.seatings anchors cards) n s)
      (Forest.seatedAt (Forest.seatings anchors' cards') n s) := by
  rw [Forest.seatedAt_seatings, Forest.seatedAt_seatings]
  simp only [Forest.seat?, h]
  exact Agree.filter fun b => (Slot.best b (anchors'.map (·.box))).map
    (fun slot => (slot.tree, slot.side)) = some (n, s)

theorem agree_unseated {anchors anchors' : List Instance}
    (h : anchors.map (·.box) = anchors'.map (·.box)) :
    Agree cards cards' (Forest.unseated (Forest.seatings anchors cards))
      (Forest.unseated (Forest.seatings anchors' cards')) := by
  rw [Forest.unseated_seatings, Forest.unseated_seatings]
  simp only [Forest.seat?, h]
  exact Agree.filter fun b => (Slot.best b (anchors'.map (·.box))).map
    (fun slot => (slot.tree, slot.side)) = none

theorem agree_seatedTrees {anchors anchors' : List Instance}
    (h : anchors.map (·.box) = anchors'.map (·.box)) :
    List.Forall₂ (Tree.Agree cards cards')
      (Forest.seatedTrees anchors (Forest.seatings anchors cards))
      (Forest.seatedTrees anchors' (Forest.seatings anchors' cards')) := by
  have hlen : anchors.length = anchors'.length := by simpa using congrArg List.length h
  refine List.forall₂_iff_get.2 ⟨by simpa [Forest.seatedTrees] using hlen, fun n hn hn' => ?_⟩
  have ht := List.getElem?_eq_getElem hn
  have ht' := List.getElem?_eq_getElem hn'
  refine ⟨?_, fun s => ?_⟩
  · have hboxes := h
    rw [← Forest.anchor_seatedTrees anchors (Forest.seatings anchors cards),
      ← Forest.anchor_seatedTrees anchors' (Forest.seatings anchors' cards')] at hboxes
    have hbox := congrArg (·[n]?) hboxes
    simpa [hn, hn'] using hbox
  · simp only [List.get_eq_getElem]
    rw [Forest.side_of_seatedTrees ht, Forest.side_of_seatedTrees ht']
    exact agree_seatedAt h n s

section Forests

variable {isAnchor : Instance → Bool} {arena arena' : List Instance}

theorem agree_ofArena (hidx : Indexed arena) (hidx' : Indexed arena')
    (hd : ∀ c ∈ arena, c.box.hasDoubleEdges) (hd' : ∀ c ∈ arena', c.box.hasDoubleEdges)
    (hanchors : (arena.filter isAnchor).map (·.box) = (arena'.filter isAnchor).map (·.box))
    (hsame : SameBoxes (arena.filter (!isAnchor ·)) (arena'.filter (!isAnchor ·))) :
    List.Forall₂ (Tree.Agree (arena.filter (!isAnchor ·)) (arena'.filter (!isAnchor ·)))
        (Forest.ofArena isAnchor arena).trees (Forest.ofArena isAnchor arena').trees ∧
      Agree (arena.filter (!isAnchor ·)) (arena'.filter (!isAnchor ·))
        (Forest.waiting isAnchor arena) (Forest.waiting isAnchor arena') :=
  agree_growAll hsame (fun c hc => hd c (List.mem_filter.1 hc).1)
    (fun c hc => hd' c (List.mem_filter.1 hc).1) (agree_seatedTrees hanchors)
    (agree_unseated hanchors) (Forest.indexed_unseated hidx _) (Forest.indexed_unseated hidx' _)

theorem exists_side_iff_of_agree {ts ts' : List Tree}
    (h : List.Forall₂ (Tree.Agree cards cards') ts ts') {c c' : Instance} (hc : c ∈ cards)
    (hc' : c' ∈ cards') (hbox : c.box = c'.box) (n : Nat) (s : Side) :
    (∃ t, ts[n]? = some t ∧ c ∈ t.side s) ↔ ∃ t', ts'[n]? = some t' ∧ c' ∈ t'.side s := by
  induction h generalizing n with
  | nil => simp
  | cons ht _ ih =>
    cases n with
    | zero => simpa using (ht.2 s).mem_iff hc hc' hbox
    | succ n => exact ih n

end Forests
end CardGrove
