import CardGrove.Proofs.Forest.Expansion

/-! Growth after a change of the cards. A side only grows by what is adjacent and how far, and by
the numbers that tell cards apart; where a change of cards, boxes and sides keeps these, the changed
cards join in the same order, and the same ones remain. -/
namespace CardGrove

theorem distinctFrom_map {α β α' β' : Type} [DecidableEq β] [DecidableEq β'] {key : α → β}
    {key' : α' → β'} {f : β → β'} (hf : Function.Injective f) {g : α → α'}
    (hkey : ∀ a, key' (g a) = f (key a)) (seen : List β) (as : List α) :
    distinctFrom key' (seen.map f) (as.map g) = (distinctFrom key seen as).map g := by
  induction as generalizing seen with
  | nil => rfl
  | cons a as ih =>
    simp only [List.map_cons, distinctFrom, hkey, List.mem_map_of_injective hf]
    split
    · exact ih seen
    · rw [List.map_cons, ← ih, List.map_cons]

namespace Instance

/-- The cards change by `g` and their boxes by `b`; what is adjacent on the side `s` becomes
adjacent on `s'`, with the same measurements, and different cards keep different numbers. -/
structure Carries (f : Nat → Nat) (g : Instance → Instance) (b : Box → Box) (s s' : Side) :
    Prop where
  injective : Function.Injective f
  index : ∀ c, (g c).index = f c.index
  box : ∀ c, (g c).box = b c.box
  adjacent : ∀ card origin, Fit.adjacent (b card) (b origin) s' = Fit.adjacent card origin s

theorem leastGap_map (g : Instance → Instance) (first : Scalar) (rest : List (Instance × Scalar)) :
    leastGap first (rest.map fun p => (g p.1, p.2)) = leastGap first rest := by
  rw [leastGap, List.foldl_map]
  rfl

theorem without_map {f : Nat → Nat} {g : Instance → Instance} (hf : Function.Injective f)
    (hindex : ∀ c, (g c).index = f c.index) (taken cards : List Instance) :
    without (taken.map g) (cards.map g) = (without taken cards).map g := by
  have hnumbers : (taken.map g).map (·.index) = (taken.map (·.index)).map f := by
    rw [List.map_map, List.map_map]
    exact List.map_congr_left fun c _ => hindex c
  rw [without, without, List.filter_map, hnumbers]
  refine congrArg _ (List.filter_congr fun c _ => ?_)
  simp only [Function.comp_apply, hindex, List.mem_map_of_injective hf]

variable {f : Nat → Nat} {g : Instance → Instance} {b : Box → Box} {s s' : Side}
variable (h : Carries f g b s s')

include h

theorem Carries.map_box (cards : List Instance) :
    (cards.map g).map (·.box) = (cards.map (·.box)).map b := by
  rw [List.map_map, List.map_map]
  exact List.map_congr_left fun c _ => h.box c

theorem adjacentTo_map (origin : Box) (cards : List Instance) :
    adjacentTo (b origin) s' (cards.map g) =
      (adjacentTo origin s cards).map fun p => (g p.1, p.2) := by
  rw [adjacentTo, adjacentTo, List.filterMap_map, List.map_filterMap]
  refine List.filterMap_congr fun c _ => ?_
  rw [Function.comp_apply, h.box, h.adjacent, Option.map_map]
  rfl

theorem nearestTo_map (origin : Box) (cards : List Instance) :
    nearestTo (b origin) s' (cards.map g) = (nearestTo origin s cards).map g := by
  rw [nearestTo, nearestTo, adjacentTo_map h]
  cases adjacentTo origin s cards with
  | nil => rfl
  | cons first rest =>
    rw [List.map_cons]
    dsimp only
    rw [leastGap_map]
    change (List.filter _ ((first :: rest).map fun p => (g p.1, p.2))).map (·.1) = _
    rw [List.filter_map, List.map_map, List.map_map]
    rfl

theorem reached_map (chain : List Box) (remaining : List Instance) :
    reached (chain.map b) s' (remaining.map g) = (reached chain s remaining).map g := by
  have hnearest : ((chain.map b).flatMap fun box => nearestTo box s' (remaining.map g)) =
      (chain.flatMap fun box => nearestTo box s remaining).map g := by
    rw [List.flatMap_map, List.map_flatMap]
    exact List.flatMap_congr fun box _ => nearestTo_map h box remaining
  rw [reached, hnearest]
  exact distinctFrom_map h.injective h.index [] _

theorem grow_map (chain : List Box) (remaining : List Instance) :
    grow s' (chain.map b) (remaining.map g) =
      (grow s chain remaining).map (List.map g) (List.map g) := by
  induction chain, remaining using grow.induct s with
  | case1 chain remaining new hnil =>
    have hnil' : reached (chain.map b) s' (remaining.map g) = [] := by
      rw [reached_map h, List.map_eq_nil_iff]
      exact hnil
    rw [grow_of_nil hnil, grow_of_nil hnil']
    rfl
  | case2 chain remaining new hne _ _ _ ih =>
    have hne' : reached (chain.map b) s' (remaining.map g) ≠ [] := by
      rw [reached_map h, ne_eq, List.map_eq_nil_iff]
      exact hne
    rw [grow_of_ne_nil hne, grow_of_ne_nil hne', reached_map h, h.map_box, ← List.map_append,
      without_map h.injective h.index, ih, Prod.map, Prod.map, List.map_append]

end Instance

namespace Tree

open Instance (Carries)

variable {f : Nat → Nat} {g : Instance → Instance} {b : Box → Box} {s s' : Side}

theorem line_map (h : Carries f g b s s') {t t' : Tree} (hanchor : t'.anchor = g t.anchor)
    (hside : t'.side s' = (t.side s).map g) : t'.line s' = (t.line s).map b := by
  rw [line, line, hanchor, hside, h.box, h.map_box, List.map_cons]

theorem growSide_map {m : Tree → Tree} (h : Carries f g b s s')
    (hanchor : ∀ t, (m t).anchor = g t.anchor) (hside : ∀ t, (m t).side s' = (t.side s).map g)
    (hwith : ∀ t cards, (m t).withSide s' (cards.map g) = m (t.withSide s cards)) (t : Tree)
    (waiting : List Instance) :
    (m t).growSide s' (waiting.map g) = (t.growSide s waiting).map m (List.map g) := by
  have hgrow : Instance.grow s' ((m t).line s') (waiting.map g) =
      (Instance.grow s (t.line s) waiting).map (List.map g) (List.map g) := by
    rw [line_map h (hanchor t) (hside t)]
    exact Instance.grow_map h (t.line s) waiting
  refine Prod.ext ?_ (congrArg (fun grown => grown.2) hgrow)
  change (m t).withSide s' ((m t).side s' ++
    (Instance.grow s' ((m t).line s') (waiting.map g)).1) = _
  rw [hgrow, hside, Prod.map, ← List.map_append, hwith]
  rfl

end Tree
end CardGrove
