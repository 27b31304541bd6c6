import CardGrove.Proofs.Sorting.Order
import Mathlib.Data.List.Chain

/-! Neighbours in a short sorted list. Whatever the comparison answers, a run has no two neighbours
in the wrong order: where they came together, they were compared. A list of fewer than 64 elements
is sorted as one run. -/
namespace CardGrove.Sorting

variable {α : Type} {lt : α → α → Id Bool} {a b : α} {as bs : List α}

def MayPrecede (lt : α → α → Id Bool) (a b : α) : Prop := (lt a b).run ∨ ¬(lt b a).run

theorem mayPrecede_of_not_lt (h : (lt b a).run = false) : MayPrecede lt a b :=
  .inr (Bool.eq_false_iff.1 h)

theorem isChain_descendingRun {taken : List α} (h : (a :: taken).IsChain (MayPrecede lt)) :
    (descendingRun lt a taken bs).run.1.IsChain (MayPrecede lt) := by
  induction bs generalizing a taken with
  | nil => exact h
  | cons b bs ih =>
    rw [descendingRun, Id.run_bind]
    cases hlt : (lt b a).run with
    | true => exact ih (h.cons_cons (.inl hlt))
    | false => exact h

theorem head?_ascendingRun (lt : α → α → Id Bool) (a : α) (bs : List α) :
    (ascendingRun lt a bs).run.1.head? = some a := by
  cases bs with
  | nil => rfl
  | cons b bs =>
    rw [ascendingRun, Id.run_bind]
    split
    · rfl
    · rfl

theorem isChain_cons_ascendingRun (hlt : (lt b a).run = false)
    (h : (ascendingRun lt b bs).run.1.IsChain (MayPrecede lt)) :
    (a :: (ascendingRun lt b bs).run.1).IsChain (MayPrecede lt) := by
  refine List.isChain_cons.2 ⟨fun x hx => ?_, h⟩
  rw [head?_ascendingRun, Option.mem_some_iff] at hx
  exact hx ▸ mayPrecede_of_not_lt hlt

theorem isChain_ascendingRun (lt : α → α → Id Bool) (a : α) (bs : List α) :
    (ascendingRun lt a bs).run.1.IsChain (MayPrecede lt) := by
  induction bs generalizing a with
  | nil => exact .singleton a
  | cons b bs ih =>
    rw [ascendingRun, Id.run_bind]
    cases hlt : (lt b a).run with
    | true => exact .singleton a
    | false => exact isChain_cons_ascendingRun hlt (ih b)

theorem isChain_openingRun (lt : α → α → Id Bool) (as : List α) :
    (openingRun lt as).run.1.IsChain (MayPrecede lt) := by
  match as with
  | [] => exact .nil
  | [a] => exact .singleton a
  | a :: b :: bs =>
    rw [openingRun, Id.run_bind]
    cases hlt : (lt b a).run with
    | true => exact isChain_descendingRun (List.isChain_pair.2 (.inl hlt))
    | false => exact isChain_cons_ascendingRun hlt (isChain_ascendingRun lt b bs)

theorem isChain_insert (h : as.IsChain (MayPrecede lt)) (b : α) :
    (insert lt as b).run.IsChain (MayPrecede lt) := by
  obtain ⟨-, hle, hbelow, habove⟩ :=
    bisect_between (fun a => not <$> lt b a) as (Nat.zero_le as.length)
  rw [run_insert, insertion]
  generalize (bisect (fun a => not <$> lt b a) as 0 as.length).run = n at hle hbelow habove
  refine (h.take n).append (List.isChain_cons.2 ⟨fun x hx => ?_, h.drop n⟩) fun x hx y hy => ?_
  · rw [List.head?_drop] at hx
    have hlt := habove (List.getElem?_eq_some_iff.1 hx).1
    rw [run_testAt, hx, Option.any_some, Id.run_map, Bool.not_eq_false'] at hlt
    exact .inl hlt
  · rw [List.head?_cons, Option.mem_some_iff] at hy
    rw [List.getLast?_take] at hx
    split at hx
    · cases hx
    · next hn =>
      have hin : n - 1 < as.length := by omega
      rw [List.getElem?_eq_getElem hin, Option.some_or, Option.mem_some_iff] at hx
      have hlt := hbelow (by omega)
      rw [run_testAt, List.getElem?_eq_getElem hin, Option.any_some, Id.run_map,
        Bool.not_eq_true'] at hlt
      exact hx ▸ hy ▸ mayPrecede_of_not_lt hlt

theorem isChain_foldlM_insert (h : as.IsChain (MayPrecede lt)) (bs : List α) :
    (bs.foldlM (insert lt) as).run.IsChain (MayPrecede lt) := by
  induction bs generalizing as with
  | nil => exact h
  | cons b bs ih =>
    rw [List.foldlM_cons, Id.run_bind]
    exact ih (isChain_insert h b)

theorem isChain_nextRun (lt : α → α → Id Bool) (least : Nat) (as : List α) :
    (nextRun lt least as).run.1.IsChain (MayPrecede lt) := by
  rw [nextRun, Id.run_bind]
  exact isChain_foldlM_insert (isChain_openingRun lt as) _

theorem leastRun_of_lt {n : Nat} (h : n < 64) : leastRun n = n := by
  have hlog : n.log2 - 5 = 0 := by
    by_cases hn : n = 0
    · rw [hn]
      rfl
    · have hlt : n.log2 < 6 := (Nat.log2_lt hn).2 h
      omega
  simp [leastRun, hlog]

theorem nextRun_of_length_le (lt : α → α → Id Bool) {least : Nat} (h : as.length ≤ least) :
    (nextRun lt least as).run.2 = [] := by
  have hlength := (openingRun_perm lt as).length_eq
  rw [nextRun, Id.run_bind]
  generalize (openingRun lt as).run = opened at hlength
  rw [List.length_append] at hlength
  exact List.drop_eq_nil_of_le (by omega)

theorem runs_of_length_le (lt : α → α → Id Bool) {least : Nat} (h : as.length ≤ least) :
    (runs lt least as).run = [(nextRun lt least as).run.1] := by
  have hrest := nextRun_of_length_le lt h
  rw [runs, Id.run_bind]
  generalize (nextRun lt least as).run = cut at hrest
  obtain ⟨run, rest⟩ := cut
  dsimp only at hrest ⊢
  rw [dif_neg fun hne => hne.2 hrest]
  rfl

theorem sort_of_length_lt (lt : α → α → Bool) (h : as.length < 64) :
    sort lt as = (Id.run (nextRun (fun a b => pure (lt a b)) as.length as)).1 := by
  rw [sort, sortM, Id.run_bind, leastRun_of_lt h, runs_of_length_le _ (Nat.le_refl _)]
  dsimp only
  rw [mergeRuns, List.map_nil, mergeRest]
  rfl

/-- Of two neighbours in a short sorted list, the comparison answers that the first precedes the
second or not that the second precedes the first. -/
theorem isChain_sort (lt : α → α → Bool) (h : as.length < 64) :
    (sort lt as).IsChain fun a b => lt a b ∨ ¬lt b a := by
  rw [sort_of_length_lt lt h]
  exact isChain_nextRun _ _ as

end CardGrove.Sorting
