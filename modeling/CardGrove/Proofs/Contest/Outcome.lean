import CardGrove.Contest
import Mathlib.Data.List.Nodup
import Mathlib.Data.List.Perm.Basic

/-! Outcomes of contests. Who wins is a matter of counts: a player wins who reaches the greatest
count, and that is the same in whatever order the layouts are listed. -/
namespace CardGrove.Contest

variable {layouts layouts' : List Layout}

theorem contains_winners_outcome (contest : Contest) (kind : Option Text)
    (hplayers : (layouts.map (·.player)).Nodup) {layout : Layout} (h : layout ∈ layouts) :
    (contest.outcome layouts kind).winners.contains layout.player =
      (decide (0 < (contest.outcome layouts kind).greatest) &&
        contest.count kind layout.instances == (contest.outcome layouts kind).greatest) := by
  rw [Bool.eq_iff_iff, List.contains_iff_mem]
  constructor
  · intro hwins
    obtain ⟨winner, hwinner, heq⟩ := List.mem_map.1 hwins
    obtain ⟨hmem, hcount⟩ := List.mem_filter.1 hwinner
    obtain rfl : winner = layout := List.inj_on_of_nodup_map hplayers hmem h heq
    exact hcount
  · exact fun hcount => List.mem_map.2 ⟨layout, List.mem_filter.2 ⟨h, hcount⟩, rfl⟩

theorem greatest_outcome (contest : Contest) (kind : Option Text) (layouts : List Layout) :
    (contest.outcome layouts kind).greatest =
      ((layouts.map (·.instances)).map (contest.count kind)).foldl max 0 := by
  rw [List.map_map]
  rfl

theorem greatest_outcome_perm (contest : Contest) (kind : Option Text)
    (h : (layouts.map (·.instances)).Perm (layouts'.map (·.instances))) :
    (contest.outcome layouts kind).greatest = (contest.outcome layouts' kind).greatest := by
  rw [greatest_outcome, greatest_outcome]
  exact (h.map _).foldl_eq 0

end CardGrove.Contest
