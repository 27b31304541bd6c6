import CardGrove.Proofs.Game.Accounting
import CardGrove.Proofs.Game.Layouts
import CardGrove.Proofs.Json.Within
import CardGrove.Proofs.Text.Encoding
import CardGrove.Report

/-! What is shown of a card in words: labels, their parts, numerals, and texts that conditions list.
If labels and conditions hold no surrogates, nothing that is shown holds any. -/
namespace CardGrove

namespace Text

theorem trim_subset (drop : CodePoint → Bool) (t : Text) : trim drop t ⊆ t := by
  intro c hc
  rw [trim, List.mem_reverse] at hc
  exact (List.dropWhile_sublist _).subset (List.mem_reverse.1 ((List.dropWhile_sublist _).subset hc))

end Text

theorem Label.id_subset_of_parse {text : Text} {l : Label} (h : parse text = some l) :
    l.id ⊆ text := by
  obtain ⟨⟨head, tail⟩, hcut, rfl⟩ := Option.map_eq_some_iff.1 h
  rw [cut] at hcut
  split at hcut
  · cases hcut
  · obtain ⟨rfl, rfl⟩ := Prod.mk.inj (Option.some.inj hcut)
    exact List.Subset.trans (Text.trim_subset _ _) (List.takeWhile_sublist _).subset

structure Condition.IsEncodable (c : Condition) : Prop where
  names : ∀ t ∈ c.names.getD [], t.isEncodable
  tags : ∀ t ∈ c.tags.getD [], t.isEncodable
  position : ∀ t ∈ c.position.getD [], t.isEncodable

namespace Condition

variable {c : Condition}

instance : Decidable c.IsEncodable :=
  decidable_of_iff ((∀ t ∈ c.names.getD [], t.isEncodable) ∧ (∀ t ∈ c.tags.getD [], t.isEncodable) ∧
      ∀ t ∈ c.position.getD [], t.isEncodable)
    ⟨fun h => ⟨h.1, h.2.1, h.2.2⟩, fun h => ⟨h.names, h.tags, h.position⟩⟩

theorem isEncodable_scope (c : Condition) : c.scope.isEncodable := by
  rw [scope]
  split <;> simp

theorem isEncodable_scopeNote (c : Condition) : c.scopeNote.isEncodable := by
  rw [scopeNote]
  split
  · rfl
  · simp [isEncodable_scope]

theorem IsEncodable.target (h : c.IsEncodable) : c.target.isEncodable := by
  have hnames : ∀ t ∈ c.givenNames, t.isEncodable := fun t ht => h.names t (List.mem_filter.1 ht).1
  have htags : ∀ t ∈ c.givenTags, t.isEncodable := fun t ht => h.tags t (List.mem_filter.1 ht).1
  rw [Condition.target]
  split
  · exact Text.isEncodable_joined (by simp) hnames
  · split
    · exact Text.isEncodable_joined (by simp) htags
    · simp

theorem IsEncodable.extras (h : c.IsEncodable) : c.extras.isEncodable := by
  have hlisted : ∀ set (word : String), ∀ t ∈ (if set = true then [Text.ofString word] else []),
      t.isEncodable := by
    intro set word t ht
    cases set <;> simp_all
  refine Text.isEncodable_joined (by simp) ?_
  simp only [List.forall_mem_append]
  refine ⟨⟨⟨⟨⟨hlisted _ _, hlisted _ _⟩, hlisted _ _⟩, hlisted _ _⟩, hlisted _ _⟩, ?_⟩
  split
  · simp [Text.isEncodable_joined _ h.position]
  · simp

theorem IsEncodable.extrasNote (h : c.IsEncodable) : c.extrasNote.isEncodable := by
  rw [Condition.extrasNote]
  split
  · rfl
  · simp [h.extras]

end Condition

namespace Award

theorem isEncodable_pointsWord (n : Int) : (pointsWord n).isEncodable := by
  rw [pointsWord]
  split <;> simp

variable {condition : Option Condition} (h : ∀ c ∈ condition, c.IsEncodable) (matched : Option Int)
include h

theorem isEncodable_fixed (amount : Int) (least : Option Int) :
    (fixed amount least condition matched).reason.isEncodable := by
  cases condition with
  | none => simp [fixed, isEncodable_pointsWord]
  | some c =>
    have hc := h c rfl
    cases matched with
    | none => simp [fixed, isEncodable_pointsWord]
    | some n =>
      cases least <;> simp only [fixed] <;> split <;>
        simp [amountText, atLeast, isEncodable_pointsWord, hc.target, c.isEncodable_scopeNote,
          hc.extrasNote]

theorem isEncodable_multiplication (amount : Int) (least : Option Int) :
    (multiplication amount least condition matched).reason.isEncodable := by
  cases condition with
  | none => simp [multiplication, noCondition]
  | some c =>
    have hc := h c rfl
    cases matched with
    | none => simp [multiplication, noCondition]
    | some n =>
      have hdetails : ∀ t ∈ (least.map atLeast).toList ++
          (if c.scope.isEmpty then [] else [c.scope]), t.isEncodable := by
        rw [List.forall_mem_append]
        constructor
        · cases least <;> simp [atLeast]
        · split <;> simp [c.isEncodable_scope]
      have hnote : ∀ details : List Text, (∀ t ∈ details, t.isEncodable) →
          (if details.isEmpty then [] else " (" ++ Text.joined ", " details ++ ")" :
            Text).isEncodable := by
        intro details hdetails
        split
        · rfl
        · simp [Text.isEncodable_joined _ hdetails]
      simp only [multiplication, amountText, Text.isEncodable_append, Text.isEncodable_ofInt,
        Text.isEncodable_ofString, isEncodable_pointsWord, hc.target, hnote _ hdetails,
        hc.extrasNote, Bool.and_self]

theorem isEncodable_table (amounts : List Int) :
    (table amounts condition matched).reason.isEncodable := by
  cases condition with
  | none => simp [table, noCondition]
  | some c =>
    have hc := h c rfl
    cases matched with
    | none => simp [table, noCondition]
    | some n =>
      simp [table, hc.target, hc.extrasNote, c.isEncodable_scopeNote]

end Award

theorem Rule.isEncodable_award {r : Rule} (h : ∀ c ∈ r.condition, c.IsEncodable)
    (matched : Option Int) : (r.award matched).reason.isEncodable := by
  rw [award]
  cases r.payout with
  | fixed amount => exact Award.isEncodable_fixed h matched amount r.min
  | multiplication amount => exact Award.isEncodable_multiplication h matched amount r.min
  | table amounts => exact Award.isEncodable_table h matched amounts

namespace Layout

theorem isEncodable_award (layouts : List Layout) (layout : Layout) (g : TableGroups) {c : Instance}
    (h : ∀ condition, c.condition? = some condition → condition.IsEncodable) (st : Standings) :
    ((layout.award layouts g c).run st).1.reason.isEncodable := by
  cases hc : c.condition? with
  | none =>
    rw [award_of_condition?_none layouts layout g hc]
    cases hrule : c.rule with
    | none => exact Text.isEncodable_ofString _
    | some rule =>
      have hnone : rule.condition = none := by
        rw [Instance.condition?, hrule] at hc
        exact hc
      exact Rule.isEncodable_award (by simp [hnone]) none
  | some condition =>
    obtain ⟨rule, hrule, hcondition⟩ := Option.bind_eq_some_iff.1 hc
    rw [award_of_condition layouts layout g hrule hcondition]
    refine Rule.isEncodable_award (fun c' hc' => ?_) _
    obtain rfl : condition = c' := Option.some.inj (hcondition.symm.trans hc')
    exact h _ hc

theorem isEncodable_awardOnTurn (layouts : List Layout) (layout : Layout) {c : Instance}
    (h : ∀ condition, c.condition? = some condition → condition.IsEncodable) (st : Standings) :
    (layout.awardOnTurn layouts st c).reason.isEncodable :=
  isEncodable_award layouts layout _ h _

end Layout

namespace Player

variable {ν : Type} {catalog : Catalog} {p : Player ν}

def IsEncodable (p : Player ν) : Prop := ∀ card ∈ p.cards, ∀ label ∈ card.label, label.isEncodable

theorem isEncodable_of_mem_layout (hp : p.IsEncodable) {n : Nat} {c : Instance}
    (h : c ∈ (p.layout catalog n).instances) : c.label.isEncodable ∧ c.id.isEncodable := by
  rw [layout_eq] at h
  change c ∈ (p.forest catalog).scoringOrder at h
  obtain hforest | ⟨ds, hds, hforest⟩ := p.forest_cases catalog
  · rw [hforest] at h
    cases h
  · rw [hforest] at h
    have hc := (Forest.scoringOrder_build_perm catalog ds).subset h
    have hmem := Instance.mem_of_mem_resolve hc
    have hid := Instance.id?_of_mem_resolve hc
    have hlabel : c.label.isEncodable := by
      refine hp c.detection.sighting ?_ c.label rfl
      rw [detections?_eq_some_iff.1 hds]
      exact List.mem_map_of_mem hmem
    obtain ⟨l, hl, hlid⟩ := Option.map_eq_some_iff.1 hid
    exact ⟨hlabel, Text.isEncodable_of_subset hlabel (hlid ▸ Label.id_subset_of_parse hl)⟩

end Player

theorem Forest.isEncodable_group? (f : Forest) (c : Instance) :
    (f.group? c).all Text.isEncodable := by
  rw [group?, Option.all_map]
  cases f.position? c <;> simp [groupLabel, groupPrefix]

theorem CardScore.isEncodable_toJson (c : CardScore) :
    c.toJson.isEncodable = (c.label.isEncodable && (c.reason.isEncodable &&
      (c.title.isEncodable && c.group.all Text.isEncodable))) := by
  rw [toJson, Json.isEncodable_obj]
  cases c.group <;> simp

theorem PlayerScore.isEncodable_toJson {ν : Type} (encode : ν → Json) (s : PlayerScore ν) :
    (s.toJson encode).isEncodable =
      ((encode s.name).isEncodable && s.cards.all (·.toJson.isEncodable)) := by
  have hcards : (Json.arr (s.cards.map CardScore.toJson)).isEncodable =
      s.cards.all (·.toJson.isEncodable) := by
    rw [Json.isEncodable_arr, List.all_map]
    rfl
  rw [toJson, Json.isEncodable_obj]
  simp [hcards]

namespace Game

variable {catalog : Catalog}

theorem cards_of_mem_results {ν : Type} {players : List (Player ν)} {s : PlayerScore ν}
    (h : s ∈ results catalog players) : ∃ p ∈ players, s.name = p.name ∧ ∃ n st,
      s.cards = (p.layout catalog n).forest.displayOrder.map fun c =>
        (p.layout catalog n).cardScore c
          ((p.layout catalog n).awardOnTurn (layouts catalog players) st c) := by
  obtain ⟨n, hn⟩ := List.mem_iff_getElem?.1 h
  rw [getElem?_results] at hn
  obtain ⟨p, hp, rfl⟩ := Option.map_eq_some_iff.1 hn
  exact ⟨p, List.mem_of_getElem? hp, Layout.name_run_score _ _ _ _, n, _,
    Layout.cards_run_score _ p.name _ (p.displayOrder_layout_perm catalog n)
      (p.indexed_layout catalog n)⟩

theorem isEncodable_reason {ν : Type} (hcatalog : ∀ c ∈ catalog.conditions, c.IsEncodable)
    (players : List (Player ν)) :
    ∀ s ∈ results catalog players, ∀ c ∈ s.cards, c.reason.isEncodable := by
  intro s hs c hc
  obtain ⟨p, -, -, n, st, hcards⟩ := cards_of_mem_results hs
  rw [hcards] at hc
  obtain ⟨i, hi, rfl⟩ := List.mem_map.1 hc
  refine Layout.isEncodable_awardOnTurn _ _ (fun condition hcondition => hcatalog condition ?_) st
  exact Instance.mem_conditions_of_condition?
    (p.definition_of_mem_layout catalog ((p.displayOrder_layout_perm catalog n).subset hi)) hcondition

/-- Whether scores can be written depends on the reasons alone, if names and labels can. -/
theorem isEncodable_report_iff {ν : Type} {encode : ν → Json} {players : List (Player ν)}
    (hnames : ∀ p ∈ players, (encode p.name).isEncodable) (hlabels : ∀ p ∈ players, p.IsEncodable) :
    (report encode (results catalog players)).isEncodable ↔
      ∀ s ∈ results catalog players, ∀ c ∈ s.cards, c.reason.isEncodable := by
  rw [report, Json.isEncodable_arr, List.all_map, List.all_eq_true]
  refine forall₂_congr fun s hs => ?_
  obtain ⟨p, hp, hname, n, st, hcards⟩ := cards_of_mem_results hs
  rw [Function.comp_apply, PlayerScore.isEncodable_toJson, hname, hnames p hp, Bool.true_and,
    List.all_eq_true]
  refine forall₂_congr fun c hc => ?_
  rw [hcards] at hc
  obtain ⟨i, hi, rfl⟩ := List.mem_map.1 hc
  obtain ⟨hlabel, hid⟩ := Player.isEncodable_of_mem_layout (hlabels p hp)
    ((p.displayOrder_layout_perm catalog n).subset hi)
  rw [CardScore.isEncodable_toJson]
  simp [Layout.cardScore, hlabel, hid, Forest.isEncodable_group?]

end Game
end CardGrove
