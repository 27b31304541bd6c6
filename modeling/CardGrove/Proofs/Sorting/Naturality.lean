import CardGrove.Sorting
import Mathlib.Control.Traversable.Basic
import Mathlib.Data.List.Forall2
import Mathlib.Data.List.InsertIdx

/-! Sorting looks at elements through the comparison alone. Where the comparison of two images
always answers, and answers as another comparison does for what they are images of, each stage takes
the images of a list to the images of its result. -/
namespace CardGrove.Sorting

section Rounds

variable {α : Type} {m : Type → Type} [Monad m] (lt : α → α → m Bool)

theorem mergeUp_pairwise (kept patience leftWins rightWins : Nat) (a a' : α) (as : List α) (b : α)
    (bs : List α) :
    mergeUp lt kept (.pairwise patience leftWins rightWins) (a :: a' :: as) (b :: bs) = (do
      if ← lt b a then
        let (rest, kept) ← mergeUp lt patience (.afterRight patience rightWins) (a :: a' :: as) bs
        return (b :: rest, kept)
      else
        let (rest, kept) ← mergeUp lt patience (.afterLeft patience leftWins) (a' :: as) (b :: bs)
        return (a :: rest, kept)) := by
  rw [mergeUp.eq_def]

theorem mergeUp_strides (kept patience : Nat) (a a' : α) (as : List α) (b : α) (bs : List α) :
    mergeUp lt kept (.strides patience) (a :: a' :: as) (b :: bs) = (do
      let k ← boundary (fun x => not <$> lt b x) (a :: a' :: as) 0
      match (a :: a' :: as).drop k with
      | [] => return (a :: a' :: as ++ b :: bs, patience)
      | [last] => return ((a :: a' :: as).take k ++ b :: bs ++ [last], patience)
      | next :: others =>
        let l ← boundary (lt · next) bs 0
        let (rest, kept) ← mergeUp lt patience (.afterStrides patience k l) others (bs.drop l)
        return ((a :: a' :: as).take k ++ b :: bs.take l ++ next :: rest, kept)) := by
  rw [mergeUp.eq_def]
  refine bind_congr fun k => ?_
  generalize (a :: a' :: as).drop k = tail
  match tail with
  | [] => rfl
  | [last] => rfl
  | next :: other :: others => rfl

theorem mergeDown_pairwise (kept patience leftWins rightWins : Nat) (a : α) (as : List α) (b b' : α)
    (bs : List α) :
    mergeDown lt kept (.pairwise patience leftWins rightWins) (a :: as) (b :: b' :: bs) = (do
      if ← lt b a then
        let (rest, kept) ←
          mergeDown lt patience (.afterLeft patience leftWins) as (b :: b' :: bs)
        return (a :: rest, kept)
      else
        let (rest, kept) ←
          mergeDown lt patience (.afterRight patience rightWins) (a :: as) (b' :: bs)
        return (b :: rest, kept)) := by
  rw [mergeDown.eq_def]

theorem mergeDown_strides (kept patience : Nat) (a : α) (as : List α) (b b' : α) (bs : List α) :
    mergeDown lt kept (.strides patience) (a :: as) (b :: b' :: bs) = (do
      let before ← boundary (fun x => not <$> lt b x) (a :: as).reverse as.length
      let k := as.length + 1 - before
      match (a :: as).drop k with
      | [] => return (a :: as ++ b :: b' :: bs, patience)
      | next :: others =>
        match bs with
        | [] => return ((a :: as).take k ++ b :: next :: others ++ [b'], patience)
        | _ =>
          let before ← boundary (lt · next) (b' :: bs).reverse bs.length
          let l := bs.length + 1 - before
          match (b' :: bs).drop l with
          | [] => return ((a :: as).take k ++ b :: b' :: bs ++ next :: others, patience)
          | [first] =>
            return ((a :: as).take k ++ b :: (b' :: bs).take l ++ next :: others ++ [first], patience)
          | left =>
            let (rest, kept) ← mergeDown lt patience (.afterStrides patience k l) others left
            return ((a :: as).take k ++ b :: (b' :: bs).take l ++ next :: rest, kept)) := by
  rw [mergeDown.eq_def]
  refine bind_congr fun before => ?_
  dsimp only
  generalize (a :: as).drop _ = tail
  match tail with
  | [] => rfl
  | next :: others =>
    match bs with
    | [] => rfl
    | b'' :: bs =>
      refine bind_congr fun before => ?_
      dsimp only [List.length_cons]
      generalize (b' :: b'' :: bs).drop _ = tail
      match tail with
      | [] => rfl
      | [last] => rfl
      | next :: other :: others => rfl

end Rounds

variable {α β : Type} {m : Type → Type} [Monad m] [LawfulMonad m] {f : β → α}

section Searches

variable {test : α → m Bool} {test' : β → Id Bool}

omit [LawfulMonad m] in
theorem testAt_map (h : ∀ b, test (f b) = pure (test' b).run) (bs : List β) (n : Nat) :
    testAt test (bs.map f) n = pure (testAt test' bs n).run := by
  rw [testAt, testAt, List.getElem?_map]
  cases bs[n]? with
  | none => rfl
  | some b => exact h b

theorem bisect_map (h : ∀ b, test (f b) = pure (test' b).run) (bs : List β) (lo hi : Nat) :
    bisect test (bs.map f) lo hi = pure (bisect test' bs lo hi).run := by
  induction lo, hi using bisect.induct with
  | case1 lo hi hlt mid ih ih' =>
    rw [bisect, bisect, dif_pos hlt, dif_pos hlt]
    dsimp only
    rw [testAt_map h, pure_bind, Id.run_bind]
    split
    · exact ih
    · exact ih'
  | case2 lo hi hlt =>
    rw [bisect, bisect, dif_neg hlt, dif_neg hlt]
    rfl

theorem stride_pure {probe : Nat → m Bool} {probe' : Nat → Id Bool}
    (h : ∀ n, probe n = pure (probe' n).run) (limit last next : Nat) :
    stride probe limit last next = pure (stride probe' limit last next).run := by
  induction last, next using stride.induct limit with
  | case1 last next hlt ih =>
    rw [stride.eq_def probe, stride.eq_def probe', dif_pos hlt, dif_pos hlt, h, pure_bind,
      Id.run_bind]
    split
    · exact ih
    · rfl
  | case2 last next hlt =>
    rw [stride.eq_def probe, stride.eq_def probe', dif_neg hlt, dif_neg hlt]
    rfl

theorem boundary_map (h : ∀ b, test (f b) = pure (test' b).run) (bs : List β) (start : Nat) :
    boundary test (bs.map f) start = pure (boundary test' bs start).run := by
  rw [boundary, boundary, testAt_map h, pure_bind, Id.run_bind, List.length_map]
  split
  · have hprobe := fun n => testAt_map h bs (start + n)
    rw [stride_pure hprobe, pure_bind, Id.run_bind]
    exact bisect_map h bs _ _
  · have hprobe (n : Nat) : (not <$> testAt test (bs.map f) (start - n)) =
        pure (not <$> testAt test' bs (start - n)).run := by
      rw [testAt_map h, map_pure]
      rfl
    rw [stride_pure hprobe, pure_bind, Id.run_bind]
    exact bisect_map h bs _ _

end Searches

variable {lt : α → α → m Bool} {lt' : β → β → Id Bool}

theorem bisect_not_lt (h : ∀ a b, lt (f a) (f b) = pure (lt' a b).run) (x : β) (bs : List β)
    (lo hi : Nat) :
    bisect (fun a => not <$> lt (f x) a) (bs.map f) lo hi =
      pure (bisect (fun b => not <$> lt' x b) bs lo hi).run := by
  refine bisect_map (fun b => ?_) bs lo hi
  rw [h, map_pure]
  rfl

theorem boundary_not_lt (h : ∀ a b, lt (f a) (f b) = pure (lt' a b).run) (x : β) (bs : List β)
    (start : Nat) :
    boundary (fun a => not <$> lt (f x) a) (bs.map f) start =
      pure (boundary (fun b => not <$> lt' x b) bs start).run := by
  refine boundary_map (fun b => ?_) bs start
  rw [h, map_pure]
  rfl

theorem boundary_lt (h : ∀ a b, lt (f a) (f b) = pure (lt' a b).run) (x : β) (bs : List β)
    (start : Nat) :
    boundary (lt · (f x)) (bs.map f) start = pure (boundary (lt' · x) bs start).run :=
  boundary_map (fun b => h b x) bs start

variable (h : ∀ a b, lt (f a) (f b) = pure (lt' a b).run)

include h

theorem descendingRun_map (a : β) (taken bs : List β) :
    descendingRun lt (f a) (taken.map f) (bs.map f) =
      pure ((descendingRun lt' a taken bs).run.map (List.map f) (List.map f)) := by
  induction bs generalizing a taken with
  | nil => rfl
  | cons b bs ih =>
    rw [List.map_cons, descendingRun, descendingRun, h, pure_bind, Id.run_bind]
    split
    · exact ih b (a :: taken)
    · rfl

theorem ascendingRun_map (a : β) (bs : List β) :
    ascendingRun lt (f a) (bs.map f) =
      pure ((ascendingRun lt' a bs).run.map (List.map f) (List.map f)) := by
  induction bs generalizing a with
  | nil => rfl
  | cons b bs ih =>
    rw [List.map_cons, ascendingRun, ascendingRun, h, pure_bind, Id.run_bind]
    split
    · rfl
    · rw [ih, pure_bind]
      rfl

theorem openingRun_map (bs : List β) :
    openingRun lt (bs.map f) = pure ((openingRun lt' bs).run.map (List.map f) (List.map f)) := by
  match bs with
  | [] => rfl
  | [_] => rfl
  | a :: b :: bs =>
    rw [List.map_cons, List.map_cons, openingRun, openingRun, h, pure_bind, Id.run_bind]
    split
    · exact descendingRun_map h b [a] bs
    · rw [ascendingRun_map h, pure_bind]
      rfl

theorem insert_map (sorted : List β) (x : β) :
    insert lt (sorted.map f) (f x) = pure ((insert lt' sorted x).run.map f) := by
  rw [insert, insert, List.length_map, bisect_not_lt h, pure_bind, Id.run_bind]
  exact congrArg pure (List.map_insertIdx ..).symm

theorem foldlM_insert_map (xs run : List β) :
    (xs.map f).foldlM (insert lt) (run.map f) =
      pure ((xs.foldlM (insert lt') run).run.map f) := by
  induction xs generalizing run with
  | nil => rfl
  | cons x xs ih =>
    rw [List.map_cons, List.foldlM_cons, List.foldlM_cons, insert_map h, pure_bind, Id.run_bind]
    exact ih _

theorem nextRun_map (least : Nat) (bs : List β) :
    nextRun lt least (bs.map f) =
      pure ((nextRun lt' least bs).run.map (List.map f) (List.map f)) := by
  rw [nextRun, nextRun, openingRun_map h, pure_bind, Id.run_bind]
  generalize (openingRun lt' bs).run = opened
  obtain ⟨run, rest⟩ := opened
  dsimp only [Prod.map]
  rw [← List.map_take, ← List.map_drop, List.length_map, foldlM_insert_map h, pure_bind]
  rfl

theorem runs_map (least : Nat) (bs : List β) :
    runs lt least (bs.map f) = pure ((runs lt' least bs).run.map (List.map f)) := by
  induction hlen : bs.length using Nat.strongRecOn generalizing bs with
  | ind n ih =>
    rw [runs, runs, nextRun_map h, pure_bind, Id.run_bind]
    generalize (nextRun lt' least bs).run = cut
    obtain ⟨run, rest⟩ := cut
    simp only [Prod.map, List.length_map, ne_eq, List.map_eq_nil_iff]
    split
    · next hrest =>
      rw [ih _ (hlen ▸ hrest.1) rest rfl, pure_bind]
      rfl
    · rfl

theorem mergeUp_map (kept : Nat) (pace : Pace) (as bs : List β) :
    mergeUp lt kept pace (as.map f) (bs.map f) =
      pure ((mergeUp lt' kept pace as bs).run.map (List.map f) id) := by
  induction hlen : as.length + bs.length using Nat.strongRecOn generalizing kept pace as bs with
  | ind n ih =>
    match as, bs with
    | [], bs =>
      rw [mergeUp.eq_def, mergeUp.eq_def]
      rfl
    | [a], [] =>
      rw [mergeUp.eq_def, mergeUp.eq_def]
      rfl
    | a :: a' :: as, [] =>
      rw [mergeUp.eq_def, mergeUp.eq_def]
      rfl
    | [a], b :: bs =>
      rw [mergeUp.eq_def, mergeUp.eq_def]
      simp
    | a :: a' :: as, b :: bs =>
      simp only [List.length_cons] at hlen
      cases pace with
      | pairwise patience leftWins rightWins =>
        simp only [List.map_cons]
        rw [mergeUp_pairwise, mergeUp_pairwise, h, pure_bind, Id.run_bind]
        simp only [← List.map_cons]
        split
        · rw [ih _ (by simp only [List.length_cons]; omega) _ _ _ _ rfl, pure_bind]
          rfl
        · rw [ih _ (by simp only [List.length_cons]; omega) _ _ _ _ rfl, pure_bind]
          rfl
      | strides patience =>
        simp only [List.map_cons]
        rw [mergeUp_strides, mergeUp_strides]
        simp only [← List.map_cons, ← List.map_take, ← List.map_drop]
        rw [boundary_not_lt h, pure_bind, Id.run_bind]
        generalize (boundary (fun x => not <$> lt' b x) (a :: a' :: as) 0).run = k
        have hle : ((a :: a' :: as).drop k).length ≤ as.length + 2 := by simp
        revert hle
        generalize (a :: a' :: as).drop k = tail
        intro hle
        match tail with
        | [] => simp
        | [last] => simp
        | next :: other :: others =>
          simp only [List.map_cons]
          rw [boundary_lt h, pure_bind, Id.run_bind]
          simp only [← List.map_cons]
          simp only [List.length_cons] at hle
          rw [ih _ (by simp; omega) _ _ _ _ rfl, pure_bind]
          simp

theorem mergeDown_map (kept : Nat) (pace : Pace) (as bs : List β) :
    mergeDown lt kept pace (as.map f) (bs.map f) =
      pure ((mergeDown lt' kept pace as bs).run.map (List.map f) id) := by
  induction hlen : as.length + bs.length using Nat.strongRecOn generalizing kept pace as bs with
  | ind n ih =>
    match as, bs with
    | [], bs =>
      rw [mergeDown.eq_def, mergeDown.eq_def]
      rfl
    | a :: as, [] =>
      rw [mergeDown.eq_def, mergeDown.eq_def]
      rfl
    | a :: as, [b] =>
      rw [mergeDown.eq_def, mergeDown.eq_def]
      simp
    | a :: as, b :: b' :: bs =>
      simp only [List.length_cons] at hlen
      cases pace with
      | pairwise patience leftWins rightWins =>
        simp only [List.map_cons]
        rw [mergeDown_pairwise, mergeDown_pairwise, h, pure_bind, Id.run_bind]
        simp only [← List.map_cons]
        split
        · rw [ih _ (by simp only [List.length_cons]; omega) _ _ _ _ rfl, pure_bind]
          rfl
        · rw [ih _ (by simp only [List.length_cons]; omega) _ _ _ _ rfl, pure_bind]
          rfl
      | strides patience =>
        simp only [List.map_cons]
        rw [mergeDown_strides, mergeDown_strides]
        simp only [← List.map_cons, ← List.map_take, ← List.map_drop, ← List.map_reverse,
          List.length_map]
        rw [boundary_not_lt h, pure_bind, Id.run_bind]
        generalize as.length + 1 - Id.run _ = k
        have hle : ((a :: as).drop k).length ≤ as.length + 1 := by simp
        revert hle
        generalize (a :: as).drop k = tail
        intro hle
        match tail with
        | [] => simp
        | next :: others =>
          match bs with
          | [] => simp
          | b'' :: bs =>
            rw [List.map_cons, List.map_cons]
            dsimp only
            rw [boundary_lt h, pure_bind, Id.run_bind]
            generalize (b'' :: bs).length + 1 - Id.run _ = l
            have hle' : ((b' :: b'' :: bs).drop l).length ≤ bs.length + 2 := by simp
            revert hle'
            generalize (b' :: b'' :: bs).drop l = tail
            intro hle'
            match tail with
            | [] => simp
            | [first] => simp
            | first :: second :: left =>
              simp only [List.length_cons] at hlen hle hle'
              have hrest := ih _ (by simp only [List.length_cons]; omega) patience
                (.afterStrides patience k l) others (first :: second :: left) rfl
              rw [List.map_cons, List.map_cons] at hrest
              simp [hrest]

theorem merge_map (as bs : List β) (patience : Nat) :
    (merge lt (as.map f) (bs.map f)).run patience =
      pure (((merge lt' as bs).run patience).run.map (List.map f) id) := by
  match bs with
  | [] => rfl
  | b :: bs =>
    rw [List.map_cons]
    simp only [StateT.run, merge]
    rw [← List.map_cons, boundary_not_lt h, pure_bind, Id.run_bind]
    generalize (boundary (fun x => not <$> lt' b x) as 0).run = k
    rw [← List.map_drop, List.getLast?_map]
    cases (as.drop k).getLast? with
    | none => simp
    | some a =>
      dsimp only [Option.map]
      rw [List.length_map, boundary_lt h, pure_bind, Id.run_bind]
      generalize (boundary (lt' · a) (b :: bs) _).run = l
      rw [← List.map_take]
      match (b :: bs).take l with
      | [] => simp
      | b' :: rest =>
        have hcons : (b' :: rest).map f = f b' :: rest.map f := rfl
        rw [hcons]
        dsimp only
        rw [List.length_map]
        split
        · rw [mergeUp_map h, pure_bind]
          simp
        · rw [← hcons, ← List.map_reverse, ← List.map_reverse, ← List.map_tail,
            mergeDown_map h, pure_bind]
          simp

theorem absorb_map (power : Nat) (waiting : List (Waiting β)) (run : List β) (patience : Nat) :
    (absorb lt power (waiting.map fun w => ⟨w.run.map f, w.power⟩) (run.map f)).run patience =
      pure (((absorb lt' power waiting run).run patience).run.map
        (fun r => (r.1.map fun w => ⟨w.run.map f, w.power⟩, r.2.map f)) id) := by
  induction waiting generalizing run patience with
  | nil => rfl
  | cons w waiting ih =>
    rw [List.map_cons, absorb, absorb]
    split
    · rw [StateT.run_bind, merge_map h, pure_bind, StateT.run_bind, Id.run_bind]
      exact ih _ _
    · rfl

theorem mergeRest_map (runs : List (List β)) (patience : Nat) :
    (mergeRest lt (runs.map (List.map f))).run patience =
      pure (((mergeRest lt' runs).run patience).run.map (List.map f) id) := by
  induction hlen : runs.length using Nat.strongRecOn generalizing runs patience with
  | ind n ih =>
    match runs with
    | [] => rw [mergeRest.eq_def, mergeRest.eq_def]; rfl
    | [run] => rw [mergeRest.eq_def, mergeRest.eq_def]; rfl
    | [c, b] =>
      rw [mergeRest.eq_def, mergeRest.eq_def]
      exact merge_map h b c patience
    | c :: b :: a :: before =>
      simp only [List.map_cons]
      rw [mergeRest, mergeRest, List.length_map, List.length_map]
      split
      · rw [StateT.run_bind, merge_map h, pure_bind, StateT.run_bind, Id.run_bind]
        exact ih _ (by simp [← hlen]) (c :: _ :: before) _ rfl
      · rw [StateT.run_bind, merge_map h, pure_bind, StateT.run_bind, Id.run_bind]
        exact ih _ (by simp [← hlen]) (_ :: a :: before) _ rfl

theorem mergeRuns_map (n stop : Nat) (waiting : List (Waiting β)) (run : List β)
    (runs : List (List β)) (patience : Nat) :
    (mergeRuns lt n stop (waiting.map fun w => ⟨w.run.map f, w.power⟩) (run.map f)
        (runs.map (List.map f))).run patience =
      pure (((mergeRuns lt' n stop waiting run runs).run patience).run.map (List.map f) id) := by
  induction runs generalizing stop waiting run patience with
  | nil =>
    rw [List.map_nil, mergeRuns, mergeRuns, List.map_map]
    have hall : run.map f :: waiting.map ((·.run) ∘ fun w => (⟨w.run.map f, w.power⟩ : Waiting α)) =
        (run :: waiting.map (·.run)).map (List.map f) := by
      rw [List.map_cons, List.map_map]
      rfl
    rw [hall]
    exact mergeRest_map h _ patience
  | cons next runs ih =>
    rw [List.map_cons, mergeRuns, mergeRuns]
    dsimp only
    rw [List.length_map, List.length_map, StateT.run_bind, absorb_map h, pure_bind, StateT.run_bind,
      Id.run_bind]
    exact ih _ (⟨_, _⟩ :: _) next _

theorem sortM_map (bs : List β) :
    sortM lt (bs.map f) = pure ((sortM lt' bs).run.map f) := by
  rw [sortM, sortM, List.length_map, runs_map h, pure_bind, Id.run_bind]
  match (runs lt' (leastRun bs.length) bs).run with
  | [] => rfl
  | run :: runs =>
    rw [List.map_cons]
    dsimp only
    rw [List.length_map]
    have hmerge := mergeRuns_map h bs.length run.length [] run runs firstPatience
    rw [List.map_nil] at hmerge
    rw [hmerge, pure_bind]
    rfl

omit h

theorem sort_map (lt : α → α → Bool) (f : β → α) (bs : List β) :
    sort lt (bs.map f) = (sort (fun a b => lt (f a) (f b)) bs).map f :=
  congrArg Id.run (sortM_map (fun _ _ => rfl) bs)

theorem exists_pairs_of_forall₂ {R : α → β → Prop} {as : List α} {bs : List β}
    (h : List.Forall₂ R as bs) :
    ∃ ps : List {p : α × β // R p.1 p.2}, ps.map (·.1.1) = as ∧ ps.map (·.1.2) = bs := by
  induction h with
  | nil => exact ⟨[], rfl, rfl⟩
  | cons hab _ ih =>
    obtain ⟨ps, rfl, rfl⟩ := ih
    exact ⟨⟨(_, _), hab⟩ :: ps, rfl, rfl⟩

theorem forall₂_sort {R : α → β → Prop} {lt : α → α → Bool} {lt' : β → β → Bool} {as : List α}
    {bs : List β} (hlt : ∀ a b a' b', R a b → R a' b' → lt a a' = lt' b b')
    (h : List.Forall₂ R as bs) : List.Forall₂ R (sort lt as) (sort lt' bs) := by
  obtain ⟨ps, rfl, rfl⟩ := exists_pairs_of_forall₂ h
  have hsame : (fun p q : {p : α × β // R p.1 p.2} => lt p.1.1 q.1.1) =
      fun p q => lt' p.1.2 q.1.2 :=
    funext fun p => funext fun q => hlt _ _ _ _ p.2 q.2
  rw [sort_map, sort_map, hsame, List.forall₂_map_left_iff, List.forall₂_map_right_iff,
    List.forall₂_same]
  exact fun p _ => p.2

end CardGrove.Sorting
