import CardGrove.Proofs.Forest.Gap
import CardGrove.Proofs.Forest.Maximality
import CardGrove.Proofs.Number.Order
import Mathlib.Data.Prod.Lex

/-! The best slot. Measurements are never NaN, so they are ordered: by their gaps, and for equal
gaps by their shared extents. The search by trees and by the sides of each tree finds the first of
the best slots, as one search through all slots does. -/
namespace CardGrove

namespace Fit

def isNumeric (f : Fit) : Bool := f.gap.isNumber && f.overlap.isNumber

theorem isNumeric_measure {card anchor : Box} {side : Side} {f : Fit}
    (h : measure card anchor side = some f) : f.isNumeric := by
  have hoverlap : (card.sharedAcross anchor side).isNumber := by
    cases side <;> exact Scalar.isNumber_larger Scalar.isNumber_zeroLength _
  obtain ⟨-, -, -, rfl⟩ := measure_eq_some_iff.1 h
  rw [isNumeric, hoverlap, Scalar.isNumber_larger Scalar.isNumber_zeroLength]
  rfl

theorem direct_eq_some {card anchor : Box} {side : Side} {f : Fit} :
    direct card anchor side = some f ↔
      measure card anchor side = some f ∧ card.centeredOn anchor side := by
  rw [direct]
  split
  · next h => simp [h]
  · next h => simp [h]

/-- Where measurements stand among all: a smaller gap comes first, then a larger shared extent. -/
noncomputable def rank (f : Fit) : EReal ×ₗ ERealᵒᵈ :=
  toLex (f.gap.value, OrderDual.toDual f.overlap.value)

theorem beats_iff {f g : Fit} (hf : f.isNumeric) (hg : g.isNumeric) :
    f.beats (some g) ↔ f.rank < g.rank := by
  rw [isNumeric, Bool.and_eq_true] at hf hg
  rw [beats, rank, rank, Prod.Lex.toLex_lt_toLex, Bool.or_eq_true, Bool.and_eq_true,
    decide_eq_true_iff, decide_eq_true_iff, Scalar.lt_iff hf.1 hg.1, Scalar.same_iff hf.1 hg.1,
    Scalar.lt_iff hg.2 hf.2, OrderDual.toDual_lt_toDual]

end Fit

namespace Slot

def admissible (card : Box) (anchors : List Box) : List Slot :=
  (List.range anchors.length ×ˢ Side.placementOrder).filterMap fun (n, side) =>
    (anchors[n]?.bind (Fit.direct card · side)).map (⟨n, side, ·⟩)

def closest (slots : List Slot) : List Slot :=
  slots.filter fun s => ∀ t ∈ slots, s.fit.gap ≤ t.fit.gap

def widest (slots : List Slot) : List Slot :=
  slots.filter fun s => ∀ t ∈ slots, t.fit.overlap ≤ s.fit.overlap

theorem mem_admissible {card : Box} {anchors : List Box} {slot : Slot} :
    slot ∈ admissible card anchors ↔ ∃ a, anchors[slot.tree]? = some a ∧
      Fit.measure card a slot.side = some slot.fit ∧ card.centeredOn a slot.side := by
  obtain ⟨n, side, fit⟩ := slot
  simp only [admissible, List.mem_filterMap, Prod.exists, Option.map_eq_some_iff,
    Option.bind_eq_some_iff, Slot.mk.injEq]
  constructor
  · rintro ⟨n, side, -, fit, ⟨a, ha, hfit⟩, rfl, rfl, rfl⟩
    exact ⟨a, ha, Fit.direct_eq_some.1 hfit⟩
  · rintro ⟨a, ha, hfit⟩
    have hn : n < anchors.length := (List.getElem?_eq_some_iff.1 ha).1
    exact ⟨n, side, List.mem_product.2 ⟨List.mem_range.2 hn, side.mem_placementOrder⟩, fit,
      ⟨a, ha, Fit.direct_eq_some.2 hfit⟩, rfl, rfl, rfl⟩

theorem map_admissible (card : Box) (anchors : List Box) :
    (admissible card anchors).map (fun slot => (slot.tree, slot.side)) =
      (List.range anchors.length ×ˢ Side.placementOrder).filter fun p =>
        anchors[p.1]?.any fun a => (Fit.measure card a p.2).isSome && card.centeredOn a p.2 := by
  have hdirect : ∀ (a : Box) (side : Side),
      ((Fit.measure card a side).isSome && card.centeredOn a side) =
        (Fit.direct card a side).isSome := fun a side => by
    rw [Bool.eq_iff_iff, Bool.and_eq_true, Fit.isSome_direct]
  simp only [hdirect]
  rw [admissible, List.map_filterMap, ← List.filterMap_eq_filter]
  refine List.filterMap_congr fun p _ => ?_
  rw [Option.guard_apply]
  cases h : anchors[p.1]? with
  | none => simp [h]
  | some a => cases hfit : Fit.direct card a p.2 <;> simp [h, hfit]

theorem isNumeric_of_mem_admissible {card : Box} {anchors : List Box} {slot : Slot}
    (h : slot ∈ admissible card anchors) : slot.fit.isNumeric := by
  obtain ⟨a, -, hfit, -⟩ := mem_admissible.1 h
  exact Fit.isNumeric_measure hfit

theorem admissible_eq (card : Box) (anchors : List Box) :
    admissible card anchors = anchors.zipIdx.flatMap fun a =>
      Side.placementOrder.flatMap fun side =>
        ((Fit.direct card a.1 side).map (⟨a.2, side, ·⟩)).toList := by
  have hnums : List.range anchors.length = anchors.zipIdx.map (·.2) := by
    rw [List.zipIdx_map_snd, List.range_eq_range']
  change List.filterMap _ (List.product _ _) = _
  rw [hnums, List.product, List.flatMap_map, List.filterMap_flatMap]
  refine List.flatMap_congr fun a ha => ?_
  rw [List.filterMap_map, List.filterMap_eq_flatMap_toList]
  simp [List.mem_zipIdx_iff_getElem?.1 ha]

/-- A slot is the first of the best ones of a list; none is, if there are no slots. -/
def Leads (slots : List Slot) : Option Slot → Prop
  | none => slots = []
  | some s => ∃ before later, slots = before ++ s :: later ∧
      (∀ t ∈ before, s.fit.rank < t.fit.rank) ∧ ∀ t ∈ later, s.fit.rank ≤ t.fit.rank

theorem Leads.le {slots : List Slot} {s : Slot} (h : Leads slots (some s)) :
    ∀ t ∈ slots, s.fit.rank ≤ t.fit.rank := by
  obtain ⟨before, later, rfl, hbefore, hlater⟩ := h
  intro t ht
  rw [List.mem_append, List.mem_cons] at ht
  obtain ht | rfl | ht := ht
  · exact (hbefore t ht).le
  · exact le_rfl
  · exact hlater t ht

theorem Leads.mem {slots : List Slot} {s : Slot} (h : Leads slots (some s)) : s ∈ slots := by
  obtain ⟨before, later, rfl, -⟩ := h
  simp

theorem Leads.better {xs ys : List Slot} {s t : Option Slot} (hs : Leads xs s) (ht : Leads ys t)
    (hx : ∀ x ∈ xs, x.fit.isNumeric) (hy : ∀ y ∈ ys, y.fit.isNumeric) :
    Leads (xs ++ ys) (better s t) := by
  cases t with
  | none =>
    obtain rfl : ys = [] := ht
    rw [List.append_nil]
    exact hs
  | some t =>
    cases s with
    | none =>
      obtain rfl : xs = [] := hs
      exact ht
    | some s =>
      have hbeats := Fit.beats_iff (hy t ht.mem) (hx s hs.mem)
      by_cases h : t.fit.rank < s.fit.rank
      · obtain ⟨before, later, hys, hbefore, hlater⟩ := ht
        have hbetter : Slot.better (some s) (some t) = some t := if_pos (hbeats.2 h)
        rw [hbetter]
        refine ⟨xs ++ before, later, by simp [hys], fun u hu => ?_, hlater⟩
        cases List.mem_append.1 hu with
        | inl hu => exact h.trans_le (hs.le u hu)
        | inr hu => exact hbefore u hu
      · obtain ⟨before, later, hxs, hbefore, hlater⟩ := hs
        have hbetter : Slot.better (some s) (some t) = some s := if_neg (mt hbeats.1 h)
        rw [hbetter]
        refine ⟨before, later ++ ys, by simp [hxs], hbefore, fun u hu => ?_⟩
        cases List.mem_append.1 hu with
        | inl hu => exact hlater u hu
        | inr hu => exact (not_lt.1 h).trans (ht.le u hu)

section Tournament

variable {α : Type} {part : α → List Slot} {champion : α → Option Slot} {xs : List α}

theorem leads_foldl (hlead : ∀ x ∈ xs, Leads (part x) (champion x))
    (hnum : ∀ s ∈ xs.flatMap part, s.fit.isNumeric) {seen : List Slot} {held : Option Slot}
    (hseen : ∀ s ∈ seen, s.fit.isNumeric) (hheld : Leads seen held) :
    Leads (seen ++ xs.flatMap part)
      (xs.foldl (fun held x => better held (champion x)) held) := by
  induction xs generalizing seen held with
  | nil => simpa using hheld
  | cons x xs ih =>
    simp only [List.flatMap_cons, List.forall_mem_append, List.forall_mem_cons] at hlead hnum
    have hheld := hheld.better hlead.1 hseen hnum.1
    have hseen := List.forall_mem_append.2 ⟨hseen, hnum.1⟩
    simpa using ih hlead.2 hnum.2 hseen hheld

theorem leads_foldl_none (hlead : ∀ x ∈ xs, Leads (part x) (champion x))
    (hnum : ∀ s ∈ xs.flatMap part, s.fit.isNumeric) :
    Leads (xs.flatMap part) (xs.foldl (fun held x => better held (champion x)) none) :=
  leads_foldl hlead hnum (List.forall_mem_nil _) rfl

end Tournament

theorem leads_toList (slot? : Option Slot) : Leads slot?.toList slot? := by
  cases slot? with
  | none => rfl
  | some s => exact ⟨[], [], rfl, by simp, by simp⟩

variable {card : Box} {anchors : List Box}

theorem leads_best : Leads (admissible card anchors) (best card anchors) := by
  have hnum : ∀ s ∈ admissible card anchors, s.fit.isNumeric :=
    fun s hs => isNumeric_of_mem_admissible hs
  rw [admissible_eq] at hnum ⊢
  refine leads_foldl_none (fun a ha => ?_) hnum
  exact leads_foldl_none (fun side _ => leads_toList _)
    fun s hs => hnum s (List.mem_flatMap.2 ⟨a, ha, hs⟩)

theorem leads_flat : Leads (admissible card anchors)
    ((admissible card anchors).foldl (fun held s => better held (some s)) none) := by
  have hlead : ∀ s ∈ admissible card anchors, Leads [s] (some s) :=
    fun s _ => leads_toList (some s)
  have hnum : ∀ s ∈ (admissible card anchors).flatMap ([·]), s.fit.isNumeric := by
    rw [List.flatMap_singleton']
    exact fun s hs => isNumeric_of_mem_admissible hs
  have := leads_foldl_none hlead hnum
  rwa [List.flatMap_singleton'] at this

section Rank

variable {slots : List Slot} (hnum : ∀ s ∈ slots, s.fit.isNumeric)
include hnum

theorem mem_closest {s : Slot} : s ∈ closest slots ↔
    s ∈ slots ∧ ∀ t ∈ slots, s.fit.gap.value ≤ t.fit.gap.value := by
  rw [closest, List.mem_filter, decide_eq_true_iff]
  refine and_congr_right fun hs => forall₂_congr fun t ht => Scalar.le_iff ?_ ?_
  · exact (Bool.and_eq_true_iff.1 (hnum s hs)).1
  · exact (Bool.and_eq_true_iff.1 (hnum t ht)).1

theorem mem_widest {s : Slot} : s ∈ widest slots ↔
    s ∈ slots ∧ ∀ t ∈ slots, t.fit.overlap.value ≤ s.fit.overlap.value := by
  rw [widest, List.mem_filter, decide_eq_true_iff]
  refine and_congr_right fun hs => forall₂_congr fun t ht => Scalar.le_iff ?_ ?_
  · exact (Bool.and_eq_true_iff.1 (hnum t ht)).2
  · exact (Bool.and_eq_true_iff.1 (hnum s hs)).2

theorem mem_widest_closest {s : Slot} :
    s ∈ widest (closest slots) ↔ s ∈ slots ∧ ∀ t ∈ slots, s.fit.rank ≤ t.fit.rank := by
  have hnum' : ∀ s ∈ closest slots, s.fit.isNumeric := fun s hs => hnum s (List.mem_filter.1 hs).1
  rw [mem_widest hnum', mem_closest hnum]
  simp only [mem_closest hnum, Fit.rank, Prod.Lex.toLex_le_toLex, OrderDual.toDual_le_toDual]
  constructor
  · rintro ⟨⟨hs, hgap⟩, hoverlap⟩
    refine ⟨hs, fun t ht => ?_⟩
    obtain hlt | heq := lt_or_eq_of_le (hgap t ht)
    · exact .inl hlt
    · exact .inr ⟨heq, hoverlap t ⟨ht, heq ▸ hgap⟩⟩
  · rintro ⟨hs, hrank⟩
    have hgap : ∀ t ∈ slots, s.fit.gap.value ≤ t.fit.gap.value := fun t ht => by
      cases hrank t ht with
      | inl h => exact h.le
      | inr h => exact h.1.le
    refine ⟨⟨hs, hgap⟩, fun t ht => ?_⟩
    cases hrank t ht.1 with
    | inl h => exact absurd (ht.2 s hs) h.not_ge
    | inr h => exact h.2

end Rank

theorem Leads.eq_head? {slots : List Slot} {slot? : Option Slot} (h : Leads slots slot?)
    (hnum : ∀ s ∈ slots, s.fit.isNumeric) : slot? = (widest (closest slots)).head? := by
  cases slot? with
  | none =>
    obtain rfl : slots = [] := h
    rfl
  | some s =>
    have hbest := fun t => @mem_widest_closest _ hnum t
    obtain ⟨r, hr⟩ : ∃ r, widest (closest slots) = slots.filter r := ⟨_, List.filter_filter⟩
    rw [hr] at hbest ⊢
    have hs : r s = true := (List.mem_filter.1 ((hbest s).2 ⟨h.mem, h.le⟩)).2
    have hmem := h.mem
    obtain ⟨before, later, hslots, hbefore, -⟩ := h
    have hnone : before.filter r = [] := by
      refine List.filter_eq_nil_iff.2 fun t ht hrt => ?_
      have ht' : t ∈ slots := by simp [hslots, ht]
      exact (hbefore t ht).not_ge (((hbest t).1 (List.mem_filter.2 ⟨ht', hrt⟩)).2 s hmem)
    simp only [hslots, List.filter_append, hnone, List.filter_cons_of_pos hs, List.nil_append,
      List.head?_cons]

end Slot

namespace Forest

/-- A card is placed directly if some side of some tree admits it, and then at the first of the
closest slots that share most extent with it; one search through all slots finds the same one. -/
theorem seated_best (anchors cards : List Instance) {c : Instance} (hc : c ∈ cards) :
    let slots := Slot.admissible c.box (anchors.map (·.box))
    let best := (Slot.widest (Slot.closest slots)).head?
    (slots.map fun slot => (slot.tree, slot.side)) =
      ((List.range anchors.length ×ˢ Side.placementOrder).filter fun p =>
        anchors[p.1]?.any fun a =>
          (Fit.measure c.box a.box p.2).isSome && c.box.centeredOn a.box p.2) ∧
    (∀ slot ∈ slots, ∃ a, anchors[slot.tree]? = some a ∧
      Fit.measure c.box a.box slot.side = some slot.fit) ∧
    Slot.best c.box (anchors.map (·.box)) = best ∧
    slots.foldl (fun held slot => Slot.better held (some slot)) none = best ∧
    (c ∉ unseated (seatings anchors cards) ↔ ∃ a ∈ anchors, ∃ side,
      (Fit.measure c.box a.box side).isSome ∧ c.box.centeredOn a.box side) ∧
    ∀ n t side, (seatedTrees anchors (seatings anchors cards))[n]? = some t →
      (c ∈ t.side side ↔ best.map (fun slot => (slot.tree, slot.side)) = some (n, side)) := by
  intro slots best
  have hnum : ∀ slot ∈ slots, slot.fit.isNumeric :=
    fun slot h => Slot.isNumeric_of_mem_admissible h
  have hbest : Slot.best c.box (anchors.map (·.box)) = best := Slot.leads_best.eq_head? hnum
  refine ⟨?_, ?_, hbest, Slot.leads_flat.eq_head? hnum, ?_, ?_⟩
  · simpa [Option.any_map] using Slot.map_admissible c.box (anchors.map (·.box))
  · intro slot h
    obtain ⟨b, hb, hfit, -⟩ := Slot.mem_admissible.1 h
    rw [List.getElem?_map] at hb
    obtain ⟨a, ha, rfl⟩ := Option.map_eq_some_iff.1 hb
    exact ⟨a, ha, hfit⟩
  · simp only [unseated_seatings, List.mem_filter, hc, true_and, decide_eq_true_iff, seat?_eq_none,
      ← Fit.isSome_direct]
    simp [Option.isSome_iff_ne_none]
  · intro n t side ht
    rw [side_of_seatedTrees ht, seatedAt_seatings, List.mem_filter, decide_eq_true_iff, seat?, hbest]
    exact and_iff_right hc

def crossing : List Detection :=
  [⟨.ofCorners (.double 0.3125) (.double 0.0625) (.double 0.4375) (.double 0.3125), "Birch:a"⟩,
    ⟨.ofCorners (.double 0.0) (.double 0.0) (.double 0.125) (.double 0.25), "Oak:a"⟩,
    ⟨.ofCorners .nan (.double 0.0) (.double (1.0 / 0.0)) (.double 0.25), "Oak:b"⟩,
    ⟨.ofCorners (.double 0.15625) (.double 0.0) (.double 0.28125) (.double 0.25), "Wolf:a"⟩]

-- The wolf shares more extent with the oak.
theorem seated_best_crossing :
    let arena := Instance.resolve oaks crossing
    let anchors := arena.take 3
    let wolf := arena[3]
    let slots := Slot.admissible wolf.box (anchors.map (·.box))
    wolf ∈ [wolf] ∧ slots.map (fun slot => (slot.tree, slot.side)) = [(0, .left), (1, .right)] ∧
    (slots.map fun slot => slot.fit.gap) = [.double 0.03125, .double 0.03125] ∧
    (∀ t, (seatedTrees anchors (seatings anchors [wolf]))[1]? = some t → wolf ∈ t.right) ∧
    wolf ∉ unseated (seatings anchors [wolf]) := by
  intro arena anchors wolf slots
  have hwolf : wolf ∈ [wolf] := by simp
  obtain ⟨-, -, -, -, hunseated, hseated⟩ := seated_best anchors [wolf] hwolf
  refine ⟨hwolf, by decide +kernel, by decide +kernel, fun t ht => ?_, hunseated.2 ?_⟩
  · exact (hseated 1 t .right ht).2 (by decide +kernel)
  · exact ⟨anchors[1], by decide +kernel, .right, by decide +kernel⟩

end Forest
end CardGrove
