import CardGrove.Game

/-! How a game ends: with the results of all layouts, unless a layout cannot be scored or a total is
too long to be spelled. Whether some layout cannot is looked for in the memory that the layouts
before it leave behind. -/
namespace CardGrove

section Search

variable {σ α ε : Type} {I : σ → Prop} {P : α → Prop} {f : α → StateM σ (Option ε)} {xs : List α}
  {st : σ}

theorem run_bind_of_run {β : Type} {x : StateM σ α} {g : α → StateM σ β} {a : α}
    (h : (x.run st).1 = a) : (x >>= g).run st = (g a).run (x.run st).2 := by
  subst h
  rfl

theorem run_findSomeM?_of_none {x : α} (h : ((f x).run st).1 = none) :
    ((x :: xs).findSomeM? f).run st = (xs.findSomeM? f).run ((f x).run st).2 := by
  rw [List.findSomeM?, run_bind_of_run h]

theorem run_findSomeM?_of_some {x : α} {e : ε} (h : ((f x).run st).1 = some e) :
    (((x :: xs).findSomeM? f).run st).1 = some e := by
  rw [List.findSomeM?, run_bind_of_run h]
  rfl

theorem run_findSomeM?_eq_none_iff
    (h : ∀ x ∈ xs, ∀ st, I st → (((f x).run st).1 = none ↔ P x) ∧ I ((f x).run st).2)
    (hst : I st) : ((xs.findSomeM? f).run st).1 = none ↔ ∀ x ∈ xs, P x := by
  induction xs generalizing st with
  | nil => exact iff_of_true rfl (List.forall_mem_nil P)
  | cons x xs ih =>
    obtain ⟨hx, hrest⟩ := h x List.mem_cons_self st hst
    rw [List.forall_mem_cons]
    cases hfound : ((f x).run st).1 with
    | none =>
      rw [run_findSomeM?_of_none hfound, ih (fun y hy => h y (List.mem_cons_of_mem x hy)) hrest]
      exact (and_iff_right (hx.1 hfound)).symm
    | some e =>
      have hnot : ¬P x := fun hP => by simp [hx.2 hP] at hfound
      rw [run_findSomeM?_of_some hfound]
      exact iff_of_false (fun h => nomatch h) fun h => hnot h.1

end Search

namespace Game

variable {ν : Type} {catalog : Catalog} {players : List (Player ν)} {scores : List (PlayerScore ν)}

def HasShortTotals (scores : List (PlayerScore ν)) : Prop :=
  ∀ s ∈ scores, (Json.int s.total).withinLimit

instance : Decidable (HasShortTotals scores) :=
  inferInstanceAs (Decidable (∀ s ∈ scores, (Json.int s.total).withinLimit))

theorem logged_eq_ite (scores : List (PlayerScore ν)) :
    logged scores = if HasShortTotals scores then .ok scores else .error .integerTooLong := by
  by_cases h : HasShortTotals scores
  · rw [if_pos h, logged, if_pos (List.all_eq_true.2 h)]
  · rw [if_neg h, logged, if_neg (mt List.all_eq_true.1 h)]

theorem logged_eq_ok_iff {scores scores' : List (PlayerScore ν)} :
    logged scores = .ok scores' ↔ HasShortTotals scores ∧ scores' = scores := by
  rw [logged_eq_ite]
  split
  · next h => exact ⟨fun heq => ⟨h, (Except.ok.inj heq).symm⟩, fun h => congrArg _ h.2.symm⟩
  · next h => exact iff_of_false (fun heq => nomatch heq) fun hs => h hs.1

theorem score_eq_logged (h : error? (layouts catalog players) = none) :
    score catalog players = logged (results catalog players) := by
  rw [score, h]

theorem score_eq_ok_iff : score catalog players = .ok scores ↔
    error? (layouts catalog players) = none ∧ HasShortTotals (results catalog players) ∧
      scores = results catalog players := by
  rw [score]
  cases error? (layouts catalog players) with
  | none => exact logged_eq_ok_iff.trans (and_iff_right rfl).symm
  | some e => exact iff_of_false (fun h => nomatch h) fun h => nomatch h.1

theorem eq_results_of_score_eq_ok (h : score catalog players = .ok scores) :
    scores = results catalog players :=
  (score_eq_ok_iff.1 h).2.2

end Game
end CardGrove
