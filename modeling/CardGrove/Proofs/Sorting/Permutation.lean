import CardGrove.Sorting
import Mathlib.Data.List.Perm.Basic

/-! Sorting loses and copies nothing, whatever the comparison answers: every stage hands on a
permutation of what it was given. -/
namespace CardGrove.Sorting

variable {α : Type} (lt : α → α → Id Bool)

theorem descendingRun_perm (a : α) (taken bs : List α) :
    ((descendingRun lt a taken bs).run.1 ++ (descendingRun lt a taken bs).run.2).Perm
      (a :: taken ++ bs) := by
  induction bs generalizing a taken with
  | nil => simp [descendingRun]
  | cons b bs ih =>
    rw [descendingRun, Id.run_bind]
    split
    · exact (ih b (a :: taken)).trans List.perm_middle.symm
    · exact List.Perm.refl _

theorem ascendingRun_append (a : α) (bs : List α) :
    (ascendingRun lt a bs).run.1 ++ (ascendingRun lt a bs).run.2 = a :: bs := by
  induction bs generalizing a with
  | nil => simp [ascendingRun]
  | cons b bs ih =>
    rw [ascendingRun, Id.run_bind]
    split
    · rfl
    · exact congrArg (a :: ·) (ih b)

theorem openingRun_perm (as : List α) :
    ((openingRun lt as).run.1 ++ (openingRun lt as).run.2).Perm as := by
  cases as with
  | nil => exact List.Perm.refl _
  | cons a as =>
    cases as with
    | nil => exact List.Perm.refl _
    | cons b bs =>
      rw [openingRun, Id.run_bind]
      split
      · exact (descendingRun_perm lt b [a] bs).trans (List.Perm.swap a b bs)
      · exact (List.Perm.of_eq (ascendingRun_append lt b bs)).cons a

theorem bisect_le (test : α → Id Bool) (as : List α) {lo hi : Nat} (h : lo ≤ hi) :
    (bisect test as lo hi).run ≤ hi := by
  induction lo, hi using bisect.induct with
  | case1 lo hi hlt mid ih ih' =>
    rw [bisect, dif_pos hlt, Id.run_bind]
    split
    · exact ih (by omega)
    · exact Nat.le_trans (ih' (by omega)) (by omega)
  | case2 lo hi hlt =>
    rw [bisect, dif_neg hlt]
    exact h

theorem insert_perm (sorted : List α) (x : α) : (insert lt sorted x).run.Perm (x :: sorted) := by
  rw [insert, Id.run_bind]
  exact List.perm_insertIdx x sorted (bisect_le _ sorted (Nat.zero_le _))

theorem foldlM_insert_perm (xs run : List α) :
    (xs.foldlM (insert lt) run).run.Perm (run ++ xs) := by
  induction xs generalizing run with
  | nil => simp
  | cons x xs ih =>
    rw [List.foldlM_cons, Id.run_bind]
    refine (ih _).trans (((insert_perm lt run x).append_right xs).trans ?_)
    exact List.perm_middle.symm

theorem nextRun_perm (least : Nat) (as : List α) :
    ((nextRun lt least as).run.1 ++ (nextRun lt least as).run.2).Perm as := by
  have hopening := openingRun_perm lt as
  rw [nextRun, Id.run_bind]
  generalize (openingRun lt as).run = opened at hopening
  obtain ⟨run, rest⟩ := opened
  refine List.Perm.trans ?_ hopening
  have hinsert := foldlM_insert_perm lt (rest.take (least - run.length)) run
  refine (hinsert.append_right (rest.drop (least - run.length))).trans ?_
  rw [List.append_assoc, List.take_append_drop]

theorem descendingRun_ne_nil (a : α) (taken bs : List α) :
    (descendingRun lt a taken bs).run.1 ≠ [] := by
  induction bs generalizing a taken with
  | nil => simp [descendingRun]
  | cons b bs ih =>
    rw [descendingRun, Id.run_bind]
    split
    · exact ih b (a :: taken)
    · exact List.cons_ne_nil a taken

theorem openingRun_ne_nil {as : List α} (h : as ≠ []) : (openingRun lt as).run.1 ≠ [] := by
  cases as with
  | nil => exact absurd rfl h
  | cons a as =>
    cases as with
    | nil => exact List.cons_ne_nil a []
    | cons b bs =>
      rw [openingRun, Id.run_bind]
      split
      · exact descendingRun_ne_nil lt b [a] bs
      · exact List.cons_ne_nil a _

theorem length_nextRun_lt (least : Nat) {as : List α} (h : as ≠ []) :
    (nextRun lt least as).run.2.length < as.length := by
  have hlength := (openingRun_perm lt as).length_eq
  have hpos := List.length_pos_iff.2 (openingRun_ne_nil lt h)
  have hrest : (nextRun lt least as).run.2.length ≤ (openingRun lt as).run.2.length :=
    (List.drop_sublist _ _).length_le
  rw [List.length_append] at hlength
  omega

theorem runs_perm (least : Nat) (as : List α) : (runs lt least as).run.flatten.Perm as := by
  induction h : as.length using Nat.strongRecOn generalizing as with
  | ind n ih =>
    have hnext := nextRun_perm lt least as
    rw [runs, Id.run_bind]
    generalize hcut : (nextRun lt least as).run = cut at hnext
    obtain ⟨run, rest⟩ := cut
    dsimp only at hnext ⊢
    split
    · next hrest =>
      exact ((ih _ (h ▸ hrest.1) rest rfl).append_left run).trans hnext
    · next hrest =>
      have hnil : rest = [] := by
        by_cases has : as = []
        · rw [has, List.perm_nil, List.append_eq_nil_iff] at hnext
          exact hnext.2
        · have hlt := length_nextRun_lt lt least has
          rw [hcut] at hlt
          by_cases hne : rest = []
          · exact hne
          · exact absurd ⟨hlt, hne⟩ hrest
      simpa [hnil] using hnext

theorem perm_of_round {as bs front others front' others' rest : List α} {b next : α}
    (has : front ++ next :: others = as) (hbs : front' ++ others' = bs)
    (hrest : rest.Perm (others ++ others')) :
    (front ++ b :: front' ++ next :: rest).Perm (as ++ b :: bs) := by
  classical
  refine List.perm_iff_count.2 fun x => ?_
  have hcount := hrest.count_eq x
  subst has hbs
  simp only [List.count_append, List.count_cons] at hcount ⊢
  omega

theorem take_append_of_drop {as tail : List α} {k : Nat} (h : as.drop k = tail) :
    as.take k ++ tail = as := by
  rw [← h, List.take_append_drop]

theorem mergeUp_perm (kept : Nat) (pace : Pace) (as bs : List α) :
    (mergeUp lt kept pace as bs).run.1.Perm (as ++ bs) := by
  induction h : as.length + bs.length using Nat.strongRecOn generalizing kept pace as bs with
  | ind n ih =>
    rw [mergeUp.eq_def]
    split
    · exact List.Perm.refl _
    · simp
    · exact List.perm_append_comm
    · next a as b bs has =>
      rw [List.length_cons, List.length_cons] at h
      split
      · next patience leftWins rightWins =>
        rw [Id.run_bind]
        split
        · have hlt : (a :: as).length + bs.length < n := by
            rw [List.length_cons]
            omega
          have hrest := ih _ hlt patience (.afterRight patience rightWins) (a :: as) bs rfl
          exact (hrest.cons b).trans List.perm_middle.symm
        · have hlt : as.length + (b :: bs).length < n := by
            rw [List.length_cons]
            omega
          exact (ih _ hlt patience (.afterLeft patience leftWins) as (b :: bs) rfl).cons a
      · next patience =>
        rw [Id.run_bind]
        generalize Id.run (boundary _ (a :: as) 0) = k
        split
        · exact List.Perm.refl _
        · next last hdrop =>
          have hrest : List.Perm [] ([] ++ ([] : List α)) := List.Perm.refl _
          exact perm_of_round (take_append_of_drop hdrop) (List.append_nil bs) hrest
        · next last others hne hdrop =>
          rw [Id.run_bind]
          generalize (boundary (lt · last) bs 0).run = l
          have hlt : others.length + (bs.drop l).length < n := by
            have hlength := congrArg List.length hdrop
            rw [List.length_drop, List.length_cons, List.length_cons] at hlength
            rw [List.length_drop]
            omega
          have hrest := ih _ hlt patience (.afterStrides patience k l) others (bs.drop l) rfl
          exact perm_of_round (take_append_of_drop hdrop) (List.take_append_drop l bs) hrest

theorem mergeDown_perm (kept : Nat) (pace : Pace) (as bs : List α) :
    (mergeDown lt kept pace as bs).run.1.Perm (as ++ bs) := by
  induction h : as.length + bs.length using Nat.strongRecOn generalizing kept pace as bs with
  | ind n ih =>
    rw [mergeDown.eq_def]
    split
    · exact List.Perm.refl _
    · simp
    · exact List.Perm.refl _
    · next a as b bs hbs =>
      rw [List.length_cons, List.length_cons] at h
      split
      · next patience leftWins rightWins =>
        rw [Id.run_bind]
        split
        · have hlt : as.length + (b :: bs).length < n := by
            rw [List.length_cons]
            omega
          exact (ih _ hlt patience (.afterLeft patience leftWins) as (b :: bs) rfl).cons a
        · have hlt : (a :: as).length + bs.length < n := by
            rw [List.length_cons]
            omega
          have hrest := ih _ hlt patience (.afterRight patience rightWins) (a :: as) bs rfl
          exact (hrest.cons b).trans List.perm_middle.symm
      · next patience =>
        rw [Id.run_bind]
        dsimp only
        generalize as.length + 1 - _ = k
        split
        · exact List.Perm.refl _
        · next last others hdrop =>
          have hlength := congrArg List.length hdrop
          rw [List.length_drop, List.length_cons, List.length_cons] at hlength
          split
          · next first =>
            have hrest : (others ++ [first]).Perm (others ++ [first]) := List.Perm.refl _
            have hround := perm_of_round (b := b) (take_append_of_drop hdrop)
              (List.nil_append [first]) hrest
            simpa using hround
          · rw [Id.run_bind]
            generalize bs.length - Id.run _ = l
            split
            · have hrest : others.Perm (others ++ []) := by rw [List.append_nil]
              exact perm_of_round (take_append_of_drop hdrop) (List.append_nil bs) hrest
            · next first hdrop' =>
              have hrest : (others ++ [first]).Perm (others ++ [first]) := List.Perm.refl _
              have hround := perm_of_round (b := b) (take_append_of_drop hdrop)
                (take_append_of_drop hdrop') hrest
              simpa using hround
            · have hlt : others.length + (bs.drop l).length < n := by
                rw [List.length_drop]
                omega
              have hrest := ih _ hlt patience (.afterStrides patience k l) others (bs.drop l) rfl
              exact perm_of_round (take_append_of_drop hdrop) (List.take_append_drop l bs) hrest

theorem perm_of_between {as bs middle : List α} {k l : Nat}
    (h : middle.Perm (as.drop k ++ bs.take l)) :
    (as.take k ++ middle ++ bs.drop l).Perm (as ++ bs) := by
  have hwhole : as.take k ++ (as.drop k ++ bs.take l) ++ bs.drop l = as ++ bs := by
    rw [← List.append_assoc, List.take_append_drop, List.append_assoc, List.take_append_drop]
  exact hwhole ▸ (h.append_left (as.take k)).append_right (bs.drop l)

theorem reverse_of_getLast? {as : List α} {a : α} (h : as.getLast? = some a) :
    as.reverse = a :: as.reverse.tail := by
  rw [List.getLast?_eq_head?_reverse] at h
  cases hr : as.reverse with
  | nil => simp [hr] at h
  | cons x xs => simpa [hr] using h

theorem merge_perm (as bs : List α) (patience : Nat) :
    ((merge lt as bs).run patience).run.1.Perm (as ++ bs) := by
  rw [StateT.run, merge.eq_def]
  split
  · simp
  · next b bs' =>
    rw [Id.run_bind]
    generalize Id.run (boundary _ as 0) = k
    split
    · exact List.Perm.refl _
    · next a hlast =>
      rw [Id.run_bind]
      generalize Id.run (boundary _ (b :: bs') _) = l
      split
      · exact List.Perm.refl _
      · next b' rest htake =>
        split
        · have hmerged := mergeUp_perm lt patience (.pairwise patience 0 0) (as.drop k) rest
          refine perm_of_between (k := k) (l := l) ?_
          rw [htake]
          exact (hmerged.cons b').trans List.perm_middle.symm
        · have hmerged := mergeDown_perm lt patience (.pairwise patience 0 0)
            (as.drop k).reverse.tail (b' :: rest).reverse
          refine perm_of_between (k := k) (l := l) ?_
          rw [htake]
          refine (List.reverse_perm _).trans ((hmerged.cons a).trans ?_)
          rw [← List.cons_append, ← reverse_of_getLast? hlast]
          exact (List.reverse_perm _).append (List.reverse_perm _)

theorem absorb_perm (power : Nat) (waiting : List (Waiting α)) (run : List α) (patience : Nat) :
    ((((absorb lt power waiting run).run patience).run.1.1.flatMap (·.run)) ++
      ((absorb lt power waiting run).run patience).run.1.2).Perm
        (waiting.flatMap (·.run) ++ run) := by
  induction waiting generalizing run patience with
  | nil => exact List.Perm.refl _
  | cons w waiting ih =>
    rw [absorb]
    split
    · rw [StateT.run_bind, Id.run_bind]
      have hmerge := merge_perm lt w.run run patience
      refine (ih _ _).trans ?_
      rw [List.flatMap_cons]
      refine (hmerge.append_left _).trans ?_
      rw [← List.append_assoc]
      exact List.perm_append_comm.append_right run
    · exact List.Perm.refl _

theorem mergeRest_perm (rs : List (List α)) (patience : Nat) :
    ((mergeRest lt rs).run patience).run.1.Perm rs.flatten := by
  induction rs using mergeRest.induct generalizing patience with
  | case1 =>
    rw [mergeRest]
    exact List.Perm.refl _
  | case2 run =>
    rw [mergeRest]
    simp
  | case3 c b =>
    rw [mergeRest]
    refine (merge_perm lt b c patience).trans ?_
    simpa using List.perm_append_comm
  | case4 c b a before h ih =>
    rw [mergeRest, if_pos h, StateT.run_bind, Id.run_bind]
    have hmerge := merge_perm lt a b patience
    refine (ih _ _).trans ?_
    simp only [List.flatten_cons]
    refine List.Perm.append_left c ?_
    rw [← List.append_assoc]
    exact (hmerge.trans List.perm_append_comm).append_right _
  | case5 c b a before h ih =>
    rw [mergeRest, if_neg h, StateT.run_bind, Id.run_bind]
    have hmerge := merge_perm lt b c patience
    refine (ih _ _).trans ?_
    simp only [List.flatten_cons]
    rw [← List.append_assoc c b]
    exact (hmerge.trans List.perm_append_comm).append_right _

theorem mergeRuns_perm (n stop : Nat) (waiting : List (Waiting α)) (run : List α)
    (rs : List (List α)) (patience : Nat) :
    ((mergeRuns lt n stop waiting run rs).run patience).run.1.Perm
      (waiting.flatMap (·.run) ++ run ++ rs.flatten) := by
  induction rs generalizing stop waiting run patience with
  | nil =>
    rw [mergeRuns]
    refine (mergeRest_perm lt _ patience).trans ?_
    rw [List.flatten_cons, ← List.flatMap_def, List.flatten_nil, List.append_nil]
    exact List.perm_append_comm
  | cons next rs ih =>
    rw [mergeRuns, StateT.run_bind, Id.run_bind]
    have habsorb := absorb_perm lt (power n (stop - run.length) run.length next.length) waiting run
      patience
    refine (ih _ _ _ _).trans ?_
    rw [List.flatMap_cons, List.flatten_cons, ← List.append_assoc]
    refine List.Perm.append_right rs.flatten ?_
    exact (List.perm_append_comm.trans habsorb).append_right next

theorem sort_perm (lt : α → α → Bool) (as : List α) : (sort lt as).Perm as := by
  have hruns := runs_perm (fun a b => pure (lt a b)) (leastRun as.length) as
  rw [sort, sortM, Id.run_bind]
  generalize Id.run (runs _ _ as) = rs at hruns
  cases rs with
  | nil => exact hruns
  | cons run rs =>
    refine List.Perm.trans ?_ hruns
    exact mergeRuns_perm _ as.length run.length [] run rs firstPatience

end CardGrove.Sorting
