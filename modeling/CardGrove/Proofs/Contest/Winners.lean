import CardGrove.Proofs.Contest.Counting
import CardGrove.Proofs.Contest.Outcome

/-! The winners of a contest. They are the players at the greatest count, if that is positive. More
cards never lower a count, distinct ids included, so a player who gains cards lets no other player
win who did not win before. -/
namespace CardGrove

namespace Instance

theorem tally_sublist {cards cards' : List Instance} (h : cards.Sublist cards') (unique : Bool) :
    tally unique cards ≤ tally unique cards' := by
  cases unique with
  | false => exact h.length_le
  | true =>
    change (distinctIds cards).length ≤ (distinctIds cards').length
    rw [length_distinctIds, length_distinctIds]
    refine Finset.card_le_card fun id hid => ?_
    rw [List.mem_toFinset] at hid ⊢
    exact ((h.filter _).map _).subset hid

end Instance

def Layout.dealt (player : Nat) (cards : List Instance) (layouts : List Layout) : List Layout :=
  layouts.map fun l => if l.player = player then { l with instances := cards } else l

namespace Contest

variable {layouts : List Layout} {contest : Contest} {kind : Option Text}

theorem count_sublist (contest : Contest) (kind : Option Text) {cards cards' : List Instance}
    (h : cards.Sublist cards') : contest.count kind cards ≤ contest.count kind cards' :=
  Instance.tally_sublist (h.filter _) _

theorem greatest_outcome_eq_max? (contest : Contest) (kind : Option Text) (layouts : List Layout) :
    (contest.outcome layouts kind).greatest =
      (layouts.map fun l => contest.count kind l.instances).max?.getD 0 := by
  change List.foldl max 0 _ = _
  rw [List.foldl_max, Nat.zero_max]

theorem count_le_greatest (contest : Contest) (kind : Option Text) {l : Layout} (h : l ∈ layouts) :
    contest.count kind l.instances ≤ (contest.outcome layouts kind).greatest := by
  rw [greatest_outcome_eq_max?]
  exact List.le_max?_getD_of_mem (List.mem_map_of_mem h)

theorem greatest_eq_zero_or_count (contest : Contest) (kind : Option Text)
    (layouts : List Layout) :
    (contest.outcome layouts kind).greatest = 0 ∨
      ∃ l ∈ layouts, contest.count kind l.instances = (contest.outcome layouts kind).greatest := by
  rw [greatest_outcome_eq_max?]
  cases h : (layouts.map fun l => contest.count kind l.instances).max? with
  | none => exact .inl rfl
  | some n => exact .inr (List.mem_map.1 (List.max?_mem h))

theorem mem_winners_outcome {p : Nat} :
    p ∈ (contest.outcome layouts kind).winners ↔
      ∃ l ∈ layouts, l.player = p ∧ 0 < contest.count kind l.instances ∧
        ∀ m ∈ layouts, contest.count kind m.instances ≤ contest.count kind l.instances := by
  have hwinners : p ∈ (contest.outcome layouts kind).winners ↔
      ∃ l ∈ layouts, l.player = p ∧ 0 < (contest.outcome layouts kind).greatest ∧
        contest.count kind l.instances = (contest.outcome layouts kind).greatest := by
    simp only [outcome, List.mem_map, List.mem_filter, Bool.and_eq_true, decide_eq_true_eq,
      beq_iff_eq]
    constructor
    · rintro ⟨l, ⟨hl, hcount⟩, hp⟩
      exact ⟨l, hl, hp, hcount⟩
    · rintro ⟨l, hl, hp, hcount⟩
      exact ⟨l, ⟨hl, hcount⟩, hp⟩
  rw [hwinners]
  constructor
  · rintro ⟨l, hl, hp, hpos, hcount⟩
    exact ⟨l, hl, hp, hcount ▸ hpos, fun m hm => hcount ▸ count_le_greatest contest kind hm⟩
  · rintro ⟨l, hl, hp, hpos, hmax⟩
    have hle := count_le_greatest contest kind hl
    refine ⟨l, hl, hp, by omega, ?_⟩
    cases greatest_eq_zero_or_count contest kind layouts with
    | inl hzero => omega
    | inr hattained =>
      obtain ⟨m, hm, heq⟩ := hattained
      have hm := hmax m hm
      omega

theorem mem_winners_of_dealt {p q : Nat} {cards : List Instance} (hne : p ≠ q)
    (hgain : ∀ l ∈ layouts, l.player = q → l.instances.Sublist cards)
    (hwins : p ∈ (contest.outcome (Layout.dealt q cards layouts) kind).winners) :
    p ∈ (contest.outcome layouts kind).winners := by
  obtain ⟨l', hl', rfl, hpos, hmax⟩ := mem_winners_outcome.1 hwins
  obtain ⟨l, hl, rfl⟩ := List.mem_map.1 hl'
  by_cases hq : l.player = q
  · rw [if_pos hq] at hne
    exact absurd hq hne
  · rw [if_neg hq] at hpos hmax ⊢
    refine mem_winners_outcome.2 ⟨l, hl, rfl, hpos, fun m hm => ?_⟩
    have hdealt := hmax _ (List.mem_map_of_mem hm)
    by_cases hmq : m.player = q
    · rw [if_pos hmq] at hdealt
      exact (count_sublist contest kind (hgain m hm hmq)).trans hdealt
    · rwa [if_neg hmq] at hdealt

def undecided (layouts : List Layout) (contest : Contest) (kind : Option Text) : Standing :=
  ((contest.standing layouts kind).run {}).1

theorem undecided_eq (layouts : List Layout) (contest : Contest) (kind : Option Text) :
    undecided layouts contest kind = contest.outcome layouts kind := by
  rw [undecided, run_standing_of_lookup_none List.lookup_nil]

/-- The winners are the players with a positive count that no count exceeds. The greatest count is
no less than any, and it is 0 or some player's. A player who gains cards, at any places among the
others, lets no other player win who did not win before. -/
theorem winners_maxima (contest : Contest) (kind : Option Text) {layouts : List Layout}
    (hplayers : (layouts.map (·.player)).Nodup) :
    (∀ l ∈ layouts, l.player ∈ (undecided layouts contest kind).winners ↔
      0 < contest.count kind l.instances ∧
        ∀ m ∈ layouts, contest.count kind m.instances ≤ contest.count kind l.instances) ∧
    (∀ p ∈ (undecided layouts contest kind).winners, p ∈ layouts.map (·.player)) ∧
    (∀ l ∈ layouts,
      contest.count kind l.instances ≤ (undecided layouts contest kind).greatest) ∧
    ((undecided layouts contest kind).greatest = 0 ∨ ∃ l ∈ layouts,
      contest.count kind l.instances = (undecided layouts contest kind).greatest) ∧
    ∀ (p q : Nat) (cards : List Instance), p ≠ q →
      (∀ l ∈ layouts, l.player = q → l.instances.Sublist cards) →
      p ∈ (undecided (Layout.dealt q cards layouts) contest kind).winners →
        p ∈ (undecided layouts contest kind).winners := by
  simp only [undecided_eq]
  refine ⟨fun l hl => ?_, fun p hp => ?_, fun l => count_le_greatest contest kind,
    greatest_eq_zero_or_count contest kind layouts, fun p q cards => mem_winners_of_dealt⟩
  · rw [mem_winners_outcome]
    constructor
    · rintro ⟨m, hm, hsame, hmax⟩
      obtain rfl : m = l := List.inj_on_of_nodup_map hplayers hm hl hsame
      exact hmax
    · exact fun hmax => ⟨l, hl, rfl, hmax⟩
  · obtain ⟨l, hl, rfl, -⟩ := mem_winners_outcome.1 hp
    exact List.mem_map_of_mem hl

theorem winners_maxima_meadow :
    let layouts := Game.layouts deerAndWolves meadow
    let cards : Contest := ⟨[], [], false, none⟩
    let deer := [{ meadowDeer with index := 1 }, meadowDeer]
    (layouts.map (·.player)).Nodup ∧ 1 ≠ 0 ∧
    (∀ l ∈ layouts, l.player = 0 → l.instances.Sublist deer) ∧
    undecided (Layout.dealt 0 deer layouts) cards none = ⟨2, [0, 1]⟩ ∧
    1 ∈ (undecided layouts cards none).winners := by
  intro layouts cards deer
  have hplayers : (layouts.map (·.player)).Nodup := by decide +kernel
  have hgain : ∀ l ∈ layouts, l.player = 0 → l.instances.Sublist deer := by decide +kernel
  have hafter : undecided (Layout.dealt 0 deer layouts) cards none = ⟨2, [0, 1]⟩ := by
    decide +kernel
  have hwins : 1 ∈ (undecided (Layout.dealt 0 deer layouts) cards none).winners := by
    rw [hafter]
    exact .tail 0 (.head [])
  have hne : 1 ≠ 0 := by decide
  obtain ⟨-, -, -, -, hbefore⟩ := winners_maxima cards none hplayers
  exact ⟨hplayers, hne, hgain, hafter, hbefore 1 0 deer hne hgain hwins⟩

end Contest
end CardGrove
