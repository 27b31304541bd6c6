import CardGrove.Proofs.Catalog.Writable
import CardGrove.Proofs.Game.Layouts
import CardGrove.Proofs.Sorting.Naturality

/-! Games whose numbers are all doubles. No integer is met that is beyond all doubles, so no step of
building, showing or scoring a forest fails. If moreover the catalog spells no integer that is too
long, only a total can be too long to be spelled. -/
namespace CardGrove

open Instance (grow)

namespace Scalar

theorem isHuge_of_isDouble {a : Scalar} (h : a.isDouble) : a.isHuge = false := by
  cases a with
  | whole n => cases h
  | double x => rfl
  | nan => rfl

theorem clash_of_isDouble {a b : Scalar} (ha : a.isDouble) (hb : b.isDouble) :
    a.clash b = false := by
  have hhuge : (a.isHuge || b.isHuge) = false := by
    rw [isHuge_of_isDouble ha, isHuge_of_isDouble hb]
    rfl
  cases a with
  | whole n => cases ha
  | double x => exact hhuge
  | nan => exact hhuge

theorem isDouble_add {a b : Scalar} (h : b.isDouble) : (a + b).isDouble := by
  cases b with
  | whole n => cases h
  | double y => cases a <;> rfl
  | nan => cases a <;> rfl

theorem isDouble_sub {a b : Scalar} (h : b.isDouble) : (a - b).isDouble := by
  obtain ⟨r, hr⟩ := sub_eq_double (a := a) (.inr h)
  rw [hr]
  rfl

theorem quotientOverflows_of_isDouble {a : Scalar} (h : a.isDouble) (n : Nat) :
    a.quotientOverflows n = false := by
  cases a with
  | whole n => cases h
  | double x => rfl
  | nan => rfl

end Scalar

theorem isDouble_larger {a b : Scalar} (ha : a.isDouble) (hb : b.isDouble) :
    (larger a b).isDouble := by
  rw [larger]
  split
  · exact hb
  · exact ha

theorem isDouble_smaller {a b : Scalar} (ha : a.isDouble) (hb : b.isDouble) :
    (smaller a b).isDouble := by
  rw [smaller]
  split
  · exact hb
  · exact ha

namespace Box

structure AllDouble (b : Box) : Prop where
  x1 : b.x1.isDouble
  y1 : b.y1.isDouble
  x2 : b.x2.isDouble
  y2 : b.y2.isDouble
  cx : b.cx.isDouble
  cy : b.cy.isDouble
  w : b.w.isDouble
  h : b.h.isDouble

instance (b : Box) : Decidable b.AllDouble :=
  decidable_of_iff
    (b.x1.isDouble ∧ b.y1.isDouble ∧ b.x2.isDouble ∧ b.y2.isDouble ∧ b.cx.isDouble ∧
      b.cy.isDouble ∧ b.w.isDouble ∧ b.h.isDouble)
    ⟨fun ⟨x1, y1, x2, y2, cx, cy, w, h⟩ => ⟨x1, y1, x2, y2, cx, cy, w, h⟩,
      fun h => ⟨h.x1, h.y1, h.x2, h.y2, h.cx, h.cy, h.w, h.h⟩⟩

namespace AllDouble

variable {a b : Box} (ha : a.AllDouble) (hb : b.AllDouble)

include ha

theorem hasDoubleEdges : a.hasDoubleEdges := by
  simp [Box.hasDoubleEdges, ha.x1, ha.y1, ha.x2, ha.y2]

theorem edgeOverflows (s : Side) : a.edgeOverflows s = false := by
  cases s with
  | top => exact Scalar.isHuge_of_isDouble ha.y1
  | bottom => exact Scalar.isHuge_of_isDouble ha.y2
  | left => exact Scalar.isHuge_of_isDouble ha.x1
  | right => exact Scalar.isHuge_of_isDouble ha.x2

theorem breadth (s : Side) : (a.breadth s).isDouble := by
  cases s with
  | top | bottom => exact ha.w
  | left | right => exact ha.h

theorem depth (s : Side) : (a.depth s).isDouble := by
  cases s with
  | top | bottom => exact ha.h
  | left | right => exact ha.w

include hb

theorem sharedOverflows (s : Side) : a.sharedOverflows b s = false := by
  cases s with
  | top | bottom =>
    exact Scalar.clash_of_isDouble (isDouble_smaller ha.x2 hb.x2) (isDouble_larger ha.x1 hb.x1)
  | left | right =>
    exact Scalar.clash_of_isDouble (isDouble_smaller ha.y2 hb.y2) (isDouble_larger ha.y1 hb.y1)

theorem gapOverflows (s : Side) : a.gapOverflows b s = false := by
  cases s with
  | top => exact Scalar.clash_of_isDouble hb.y1 ha.y2
  | bottom => exact Scalar.clash_of_isDouble ha.y1 hb.y2
  | left => exact Scalar.clash_of_isDouble hb.x1 ha.x2
  | right => exact Scalar.clash_of_isDouble ha.x1 hb.x2

theorem measureOverflows (s : Side) : Fit.measureOverflows a b s = false := by
  have hbreadth : (larger touchTolerance (smaller (b.breadth s) (a.breadth s))).isHuge = false :=
    Scalar.isHuge_of_isDouble (isDouble_larger rfl (isDouble_smaller (hb.breadth s) (ha.breadth s)))
  have hdepth : (larger touchTolerance (larger (b.depth s) (a.depth s))).isHuge = false :=
    Scalar.isHuge_of_isDouble (isDouble_larger rfl (isDouble_larger (hb.depth s) (ha.depth s)))
  rw [Fit.measureOverflows, ha.sharedOverflows hb, hbreadth, hdepth, ha.gapOverflows hb,
    Bool.and_false]
  rfl

theorem adjacentOverflows (s : Side) : Fit.adjacentOverflows a b s = false := by
  rw [Fit.adjacentOverflows, ha.measureOverflows hb, hb.edgeOverflows, Bool.and_false]
  rfl

theorem readingOffset (tolerance : Scalar) :
    (a.y1.clash b.y1 || ((a.y1 - b.y1).abs < tolerance && a.x1.clash b.x1)) = false := by
  rw [Scalar.clash_of_isDouble ha.y1 hb.y1, Scalar.clash_of_isDouble ha.x1 hb.x1, Bool.and_false]
  rfl

end AllDouble
end Box

theorem any_eq_false_of_forall {α : Type} {xs : List α} {f : α → Bool}
    (h : ∀ a ∈ xs, f a = false) : xs.any f = false :=
  List.any_eq_false.2 fun a ha => Bool.eq_false_iff.1 (h a ha)

def AllDouble (cards : List Instance) : Prop := ∀ c ∈ cards, c.box.AllDouble

namespace Instance

theorem nearestOverflows_eq_false {origin : Box} {side : Side} {cards : List Instance}
    (ho : origin.AllDouble) (hd : AllDouble cards) : nearestOverflows origin side cards = false := by
  have hcards : (cards.any fun c => Fit.adjacentOverflows c.box origin side) = false :=
    any_eq_false_of_forall fun c hc => (hd c hc).adjacentOverflows ho side
  rw [nearestOverflows, hcards, Bool.false_or]
  cases hadj : adjacentTo origin side cards with
  | nil => rfl
  | cons first rest =>
    have hgap : ∀ p ∈ first :: rest, p.2.isHuge = false := by
      intro p hp
      rw [← hadj, mem_adjacentTo] at hp
      obtain ⟨hmem, f, hf, hgap⟩ := hp
      obtain ⟨r, hr⟩ := Box.rawGap_eq_double (hd p.1 hmem).hasDoubleEdges origin side
      rw [← hgap, Fit.gap_of_measure (Fit.measure_of_adjacent hf), hr]
      exact Scalar.isHuge_of_isDouble (isDouble_larger rfl rfl)
    change (leastGap first.2 rest).isHuge = false
    cases leastGap_mem first.2 rest with
    | inl h =>
      rw [h]
      exact hgap first List.mem_cons_self
    | inr h =>
      obtain ⟨p, hp, h⟩ := h
      rw [h]
      exact hgap p (List.mem_cons_of_mem first hp)

theorem growOverflows_eq_false {side : Side} {chain : List Box} {remaining : List Instance}
    (hchain : ∀ b ∈ chain, b.AllDouble) (hd : AllDouble remaining) :
    growOverflows side chain remaining = false := by
  induction chain, remaining using growOverflows.induct side with
  | case1 chain remaining new ih =>
    have hnearest : (chain.any fun box => nearestOverflows box side remaining) = false :=
      any_eq_false_of_forall fun b hb => nearestOverflows_eq_false (hchain b hb) hd
    rw [growOverflows, hnearest, Bool.false_or]
    split
    · rfl
    · next hnew =>
      refine ih hnew (fun b hb => ?_) fun c hc => hd c (mem_without.1 hc).1
      cases List.mem_append.1 hb with
      | inl hb => exact hchain b hb
      | inr hb =>
        obtain ⟨c, hc, rfl⟩ := List.mem_map.1 hb
        exact hd c (reached_subset chain side remaining hc)

end Instance

namespace Tree

def AllDouble (t : Tree) : Prop := t.anchor.box.AllDouble ∧ ∀ s, CardGrove.AllDouble (t.side s)

variable {t : Tree} {waiting : List Instance}

theorem AllDouble.line (h : t.AllDouble) (s : Side) : ∀ b ∈ t.line s, b.AllDouble := by
  intro b hb
  cases List.mem_cons.1 hb with
  | inl hb => exact hb ▸ h.1
  | inr hb =>
    obtain ⟨c, hc, rfl⟩ := List.mem_map.1 hb
    exact h.2 s c hc

theorem AllDouble.growSide (h : t.AllDouble) (hd : CardGrove.AllDouble waiting) (s : Side) :
    (t.growSide s waiting).1.AllDouble := by
  refine ⟨by rw [anchor_growSide]; exact h.1, fun s' c hc => ?_⟩
  by_cases hs : s' = s
  · rw [hs, side_growSide_self] at hc
    cases List.mem_append.1 hc with
    | inl hc => exact h.2 s c hc
    | inr hc => exact hd c (Instance.grow_subset _ _ _ c hc)
  · rw [side_growSide_of_ne t hs] at hc
    exact h.2 s' c hc

theorem growSidesOverflows_eq_false (h : t.AllDouble) (hd : CardGrove.AllDouble waiting)
    (ss : List Side) : t.growSidesOverflows waiting ss = false := by
  induction ss generalizing t waiting with
  | nil => rfl
  | cons s ss ih =>
    have hgrow : Instance.growOverflows s (t.line s) waiting = false :=
      Instance.growOverflows_eq_false (h.line s) hd
    have hrest := ih (h.growSide hd s) fun c hc => hd c ((growSide_snd_sublist t s _).subset hc)
    change (Instance.growOverflows s (t.line s) waiting ||
      (t.growSide s waiting).1.growSidesOverflows (t.growSide s waiting).2 ss) = false
    rw [hgrow, hrest]
    rfl

theorem totalHeightOverflows_eq_false {sum : Scalar} (hsum : sum.isHuge = false) {ts : List Tree}
    (h : ∀ t ∈ ts, t.anchor.box.AllDouble) : totalHeightOverflows sum ts = false := by
  induction ts generalizing sum with
  | nil => rfl
  | cons t ts ih =>
    have hheight := (h t List.mem_cons_self).h
    have hclash : sum.clash t.anchor.box.h = false := by
      cases sum with
      | whole n =>
        cases hb : t.anchor.box.h with
        | whole m => rfl
        | double x => simpa [Scalar.clash, Scalar.isHuge] using hsum
        | nan => simpa [Scalar.clash, Scalar.isHuge] using hsum
      | double x => exact Scalar.clash_of_isDouble rfl hheight
      | nan => exact Scalar.clash_of_isDouble rfl hheight
    rw [totalHeightOverflows, hclash, Bool.false_or]
    exact ih (Scalar.isHuge_of_isDouble (Scalar.isDouble_add hheight))
      fun u hu => h u (List.mem_cons_of_mem t hu)

theorem isDouble_totalHeight {ts : List Tree} (h : ∀ t ∈ ts, t.anchor.box.AllDouble)
    (hne : ts ≠ []) : (totalHeight ts).isDouble := by
  obtain ⟨before, last, rfl⟩ := List.eq_nil_or_concat ts |>.resolve_left hne
  rw [totalHeight, List.concat_eq_append, List.foldl_append]
  exact Scalar.isDouble_add (h last (by simp)).h

theorem readingOrderOverflows_eq_false {ts : List Tree} (h : ∀ t ∈ ts, t.anchor.box.AllDouble)
    (hne : ts ≠ []) : readingOrderOverflows ts = false := by
  have hzero : (Scalar.whole 0).isHuge = false := by decide +kernel
  -- only trees of the list are compared, so the sorting is looked at as one of such trees
  have hsort : (Sorting.sortM (readsBefore? (rowTolerance ts)) ts).isSome := by
    let before (t u : {t : Tree // t.anchor.box.AllDouble}) : Id Bool :=
      readsBefore (rowTolerance ts) t.1 u.1
    have hbefore (t u : {t : Tree // t.anchor.box.AllDouble}) :
        readsBefore? (rowTolerance ts) t.1 u.1 = pure (before t u).run := by
      rw [readsBefore?, readingOffsetOverflows, t.2.readingOffset u.2]
      rfl
    have hmap := Sorting.sortM_map (f := Subtype.val) hbefore (ts.attachWith _ h)
    rw [List.attachWith_map_subtype_val] at hmap
    rw [hmap]
    rfl
  rw [readingOrderOverflows, totalHeightOverflows_eq_false hzero h,
    Scalar.quotientOverflows_of_isDouble (isDouble_totalHeight h hne), Bool.false_or, Bool.false_or]
  exact Option.isNone_eq_false_iff.2 hsort

theorem shownOverflows_eq_false (h : t.anchor.box.AllDouble) : t.shownOverflows = false := by
  refine any_eq_false_of_forall fun s _ => ?_
  rw [h.edgeOverflows, Bool.and_false]

end Tree

namespace Forest

theorem growAllOverflows_eq_false {waiting : List Instance} {ts : List Tree}
    (h : ∀ t ∈ ts, t.AllDouble) (hd : AllDouble waiting) :
    growAllOverflows waiting ts = false := by
  induction ts generalizing waiting with
  | nil => rfl
  | cons t ts ih =>
    have hsub := Tree.growSides_snd_sublist t waiting Side.growthOrder
    rw [growAllOverflows, Tree.growSidesOverflows_eq_false (h t List.mem_cons_self) hd,
      Bool.false_or]
    exact ih (fun u hu => h u (List.mem_cons_of_mem t hu)) fun c hc => hd c (hsub.subset hc)

def AllDouble (ds : List Detection) : Prop := ∀ d ∈ ds, d.box.AllDouble

instance (ds : List Detection) : Decidable (AllDouble ds) :=
  inferInstanceAs (Decidable (∀ d ∈ ds, d.box.AllDouble))

theorem allDouble_seatedTrees {anchors cards : List Instance} (ha : CardGrove.AllDouble anchors)
    (hc : CardGrove.AllDouble cards) :
    ∀ t ∈ seatedTrees anchors (seatings anchors cards), t.AllDouble := by
  intro t ht
  obtain ⟨n, hn⟩ := List.mem_iff_getElem?.1 ht
  refine ⟨ha _ ?_, fun s c hmem => ?_⟩
  · rw [← anchor_seatedTrees anchors (seatings anchors cards)]
    exact List.mem_map_of_mem ht
  · rw [side_of_seatedTrees hn, seatedAt_seatings] at hmem
    exact hc c (List.mem_filter.1 hmem).1

variable {catalog : Catalog} {ds : List Detection}

theorem AllDouble.resolve (h : AllDouble ds) :
    CardGrove.AllDouble (Instance.resolve catalog ds) :=
  fun _ hc => h _ (Instance.mem_of_mem_resolve hc)

theorem seatingsOverflow_eq_false {anchors cards : List Instance}
    (ha : CardGrove.AllDouble anchors) (hc : CardGrove.AllDouble cards) :
    seatingsOverflow anchors cards = false := by
  refine any_eq_false_of_forall fun c hcard => ?_
  refine any_eq_false_of_forall fun a hanchor => ?_
  exact any_eq_false_of_forall fun s _ => (hc c hcard).measureOverflows (ha a hanchor) s

theorem buildOverflows_eq_false (h : AllDouble ds) : buildOverflows catalog ds = false := by
  have harena : CardGrove.AllDouble (Instance.resolve catalog ds) := h.resolve
  have hanchors (p : Instance → Bool) :
      CardGrove.AllDouble ((Instance.resolve catalog ds).filter p) :=
    fun c hc => harena c (List.mem_filter.1 hc).1
  have htrees := allDouble_seatedTrees (hanchors (catalog.isAnchor ·.id))
    (hanchors (!catalog.isAnchor ·.id))
  have hwaiting : CardGrove.AllDouble (unseated (seatings
      ((Instance.resolve catalog ds).filter (catalog.isAnchor ·.id))
      ((Instance.resolve catalog ds).filter (!catalog.isAnchor ·.id)))) := by
    intro c hc
    rw [unseated_seatings] at hc
    exact hanchors _ c (List.mem_filter.1 hc).1
  rw [buildOverflows, seatingsOverflow_eq_false (hanchors _) (hanchors _), Bool.false_or]
  exact growAllOverflows_eq_false htrees hwaiting

structure HoldsDoubles (f : Forest) : Prop where
  arena : CardGrove.AllDouble f.arena
  members : f.members ⊆ f.arena

theorem HoldsDoubles.tree {f : Forest} (h : f.HoldsDoubles) {t : Tree} (ht : t ∈ f.trees) :
    t.AllDouble := by
  have hmember {c : Instance} (hc : c ∈ t.members) : c.box.AllDouble :=
    h.arena c (h.members (List.mem_flatMap.2 ⟨t, ht, hc⟩))
  exact ⟨hmember (Tree.mem_members.2 (.inl rfl)),
    fun s c hc => hmember (Tree.mem_members.2 (.inr ⟨s, hc⟩))⟩

theorem displayOverflows_eq_false {f : Forest} (h : ∀ t ∈ f.trees, t.anchor.box.AllDouble) :
    f.displayOverflows = false := by
  rw [Forest.displayOverflows]
  cases htrees : f.trees with
  | nil => rfl
  | cons t ts =>
    rw [htrees] at h
    have hshown : (t :: ts).any Tree.shownOverflows = false :=
      any_eq_false_of_forall fun u hu => Tree.shownOverflows_eq_false (h u hu)
    rw [Tree.readingOrderOverflows_eq_false h (List.cons_ne_nil t ts), hshown, Bool.false_or,
      Bool.and_false]

theorem HoldsDoubles.displayOverflows {f : Forest} (h : f.HoldsDoubles) :
    f.displayOverflows = false :=
  displayOverflows_eq_false fun _ ht => (h.tree ht).1

theorem holdsDoubles_build (h : AllDouble ds) : (build catalog ds).HoldsDoubles :=
  ⟨h.resolve, members_ofArena_subset (Instance.indexed_resolve catalog ds)⟩

end Forest

namespace Player

variable {ν : Type}

def AllDouble (p : Player ν) : Prop := ∀ c ∈ p.cards, c.box.AllDouble

instance (p : Player ν) : Decidable p.AllDouble :=
  inferInstanceAs (Decidable (∀ c ∈ p.cards, c.box.AllDouble))

variable {p : Player ν} {catalog : Catalog}

theorem AllDouble.detections {ds : List Detection} (h : p.AllDouble)
    (hds : p.detections? = some ds) : Forest.AllDouble ds := by
  intro d hd
  rw [Player.AllDouble, detections?_eq_some_iff.1 hds] at h
  exact h d.sighting (List.mem_map_of_mem hd)

theorem AllDouble.forest? (h : p.AllDouble) :
    p.forest? catalog = p.detections?.map (Forest.build catalog) := by
  refine Option.ext fun f => ?_
  rw [forest?_eq_some_iff, Option.map_eq_some_iff]
  refine exists_congr fun ds => and_congr_right fun hds => ?_
  rw [Forest.buildOverflows_eq_false (h.detections hds)]
  exact (and_iff_right rfl).trans eq_comm

theorem AllDouble.isSome_forest? (h : p.AllDouble) (hlabels : ∀ c ∈ p.cards, c.label.isSome) :
    (p.forest? catalog).isSome := by
  obtain ⟨ds, hds⟩ := exists_detections hlabels
  rw [h.forest?, hds]
  rfl

theorem AllDouble.forest (h : p.AllDouble) : (p.forest catalog).HoldsDoubles := by
  obtain hforest | ⟨ds, hds, hforest⟩ := p.forest_cases catalog
  · rw [hforest]
    exact { arena := fun c hc => absurd hc List.not_mem_nil, members := List.Subset.refl [] }
  · rw [hforest]
    exact Forest.holdsDoubles_build (h.detections hds)

end Player

namespace Layout

variable {layouts : List Layout} {layout : Layout} {g : TableGroups}

theorem poolOverflows_eq_false (h : AllDouble layout.instances) {c : Instance}
    (hc : c ∈ layout.instances) (condition : Condition) :
    layout.poolOverflows c condition = false := by
  have hbelow : (layout.instances.any fun other =>
      c.box.y2 ≤ other.box.y1 && other.box.sharedOverflows c.box .top) = false :=
    any_eq_false_of_forall fun other hother => by
      rw [(h other hother).sharedOverflows (h c hc), Bool.and_false]
  rw [poolOverflows, hbelow, Bool.and_false]

theorem run_visitOverflows (h : AllDouble layout.instances) {c : Instance}
    (hc : c ∈ layout.instances) (st : Standings) :
    ((TableGroups.visitOverflows layouts layout g c).run st).1 = false := by
  rw [TableGroups.visitOverflows]
  cases TableGroups.condition? c with
  | none => rfl
  | some condition =>
    dsimp only
    rw [poolOverflows_eq_false h hc]
    exact Bool.and_false _

theorem run_overflow (h : AllDouble layout.instances) {cards : List Instance}
    (hcards : cards ⊆ layout.instances) (st : Standings) :
    ((TableGroups.overflow layouts layout g cards).run st).1 = false := by
  induction cards generalizing g st with
  | nil => rfl
  | cons c cards ih =>
    obtain ⟨hc, hrest⟩ := List.cons_subset.1 hcards
    rw [TableGroups.overflow, run_bind_of_run (run_visitOverflows h hc st)]
    exact ih hrest _

theorem run_awardError? (h : AllDouble layout.instances) {c : Instance}
    (hc : c ∈ layout.instances) (hrule : ∀ r ∈ c.rule, r.IsWritable) (st : Standings) :
    ((layout.awardError? layouts g c).run st).1 = none := by
  cases hcondition : c.condition? with
  | none =>
    rw [awardError?_of_condition?_none layouts layout g hcondition]
    cases hr : c.rule with
    | none => rfl
    | some r => exact (hrule r hr).error? none
  | some condition =>
    obtain ⟨r, hr, hasked⟩ := Option.bind_eq_some_iff.1 hcondition
    rw [awardError?_of_condition layouts layout g hr hasked, poolOverflows_eq_false h hc]
    simp only [Bool.and_false, Bool.false_eq_true, if_false]
    exact (hrule r hr).error? _

theorem run_error? (h : AllDouble layout.instances)
    (hdisplay : layout.forest.displayOverflows = false)
    (hrules : ∀ c ∈ layout.instances, ∀ r ∈ c.rule, r.IsWritable) (st : Standings) :
    ((layout.error? layouts).run st).1 = none := by
  have hawards (g : TableGroups) (st : Standings) :
      ((layout.instances.findSomeM? (layout.awardError? layouts g)).run st).1 = none :=
    (run_findSomeM?_eq_none_iff (I := fun _ => True) (P := fun _ => True)
      (fun c hc st _ => ⟨iff_of_true (run_awardError? h hc (hrules c hc) st) trivial, trivial⟩)
      trivial).2 fun _ _ => trivial
  rw [error?]
  split
  · rfl
  · rw [run_bind_of_run (run_overflow h (List.Subset.refl _) st)]
    simp only [Bool.false_eq_true, if_false]
    rw [run_bind_of_run rfl, run_bind_of_run (hawards _ _), hdisplay]
    rfl

end Layout

namespace Game

variable {ν : Type} {catalog : Catalog} {players : List (Player ν)}

/-- Players whose numbers are all doubles are scored, if the catalog spells no long integers. -/
theorem error?_eq_none (hcatalog : catalog.IsWritable) (h : ∀ p ∈ players, p.AllDouble) :
    error? (layouts catalog players) = none := by
  refine (run_findSomeM?_eq_none_iff (I := fun _ => True) (P := fun _ => True)
    (fun layout hlayout st _ => ⟨iff_of_true ?_ trivial, trivial⟩) trivial).2 fun _ _ => trivial
  obtain ⟨p, n, hp, rfl⟩ := mem_layouts hlayout
  have hforest : (p.forest catalog).HoldsDoubles := (h p (List.mem_of_getElem? hp)).forest
  refine Layout.run_error? (fun c hc => ?_) ?_ (fun c hc r hr => ?_) st
  · rw [p.layout_eq catalog n] at hc
    have hmem := (distinctFrom_sublist _ _ _).subset hc
    exact hforest.arena c ((List.mem_append.1 hmem).elim (fun h => hforest.members h) id)
  · rw [p.layout_eq catalog n]
    exact hforest.displayOverflows
  · obtain ⟨d, hd, hrule⟩ := Option.bind_eq_some_iff.1 hr
    rw [p.definition_of_mem_layout catalog hc] at hd
    exact hcatalog d (List.mem_of_find?_eq_some hd) r hrule

theorem score_eq_logged_of_allDouble (hcatalog : catalog.IsWritable)
    (h : ∀ p ∈ players, p.AllDouble) :
    score catalog players = logged (results catalog players) :=
  score_eq_logged (error?_eq_none hcatalog h)

theorem score_of_hasShortTotals (hcatalog : catalog.IsWritable) (h : ∀ p ∈ players, p.AllDouble)
    (hshort : HasShortTotals (results catalog players)) :
    score catalog players = .ok (results catalog players) :=
  score_eq_ok_iff.2 ⟨error?_eq_none hcatalog h, hshort, rfl⟩

theorem score_of_not_hasShortTotals (hcatalog : catalog.IsWritable)
    (h : ∀ p ∈ players, p.AllDouble) (hlong : ¬HasShortTotals (results catalog players)) :
    score catalog players = .error .integerTooLong := by
  rw [score_eq_logged_of_allDouble hcatalog h, logged_eq_ite, if_neg hlong]

end Game
end CardGrove
