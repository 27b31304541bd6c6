import CardGrove.Proofs.Sorting.Naturality
import CardGrove.Proofs.Sorting.Order

/-! Merging keeps the order that the comparison decides, in every pace and from both ends, and so
does merging all the runs of a list. -/
namespace CardGrove.Sorting

variable {α : Type} {R : α → α → Prop} {lt : α → α → Id Bool}

theorem pairwise_between {as bs middle : List α} {k l : Nat} (has : as.Pairwise R)
    (hbs : bs.Pairwise R) (hfront : ∀ x ∈ as.take k, ∀ y ∈ bs, R x y)
    (hback : ∀ y ∈ bs.drop l, ∀ x ∈ as, R x y) (hmiddle : middle.Pairwise R)
    (hperm : middle.Perm (as.drop k ++ bs.take l)) :
    (as.take k ++ middle ++ bs.drop l).Pairwise R := by
  rw [← List.take_append_drop k as, List.pairwise_append] at has
  rw [← List.take_append_drop l bs, List.pairwise_append] at hbs
  rw [List.append_assoc, List.pairwise_append, List.pairwise_append]
  refine ⟨has.1, ⟨hmiddle, hbs.2.1, fun x hx y hy => ?_⟩, fun x hx y hy => ?_⟩
  · cases List.mem_append.1 (hperm.subset hx) with
    | inl hx => exact hback y hy x (List.mem_of_mem_drop hx)
    | inr hx => exact hbs.2.2 x hx y hy
  · cases List.mem_append.1 hy with
    | inl hy =>
      cases List.mem_append.1 (hperm.subset hy) with
      | inl hy => exact has.2.2 x hx y hy
      | inr hy => exact hfront x hx y (List.mem_of_mem_take hy)
    | inr hy => exact hfront x hx y (List.mem_of_mem_drop hy)

section Rounds

variable {S : α → α → Prop} [IsTrans α S] {a b : α} {as bs : List α}

theorem forall_rel_of_head (hab : S a b) (hbs : (b :: bs).Pairwise S) : ∀ x ∈ b :: bs, S a x :=
  List.forall_mem_cons.2 ⟨hab, fun _ hx => trans_of S hab (List.rel_of_pairwise_cons hbs hx)⟩

theorem forall_rel_of_first (hab : S a b) (has : (a :: as).Pairwise S)
    (hbs : (b :: bs).Pairwise S) : ∀ x ∈ as ++ b :: bs, S a x := by
  intro x hx
  cases List.mem_append.1 hx with
  | inl hx => exact List.rel_of_pairwise_cons has hx
  | inr hx => exact forall_rel_of_head hab hbs x hx

theorem pairwise_append_of_rel (has : as.Pairwise S) (hbs : (b :: bs).Pairwise S)
    (h : ∀ x ∈ as, S x b) : (as ++ b :: bs).Pairwise S :=
  List.pairwise_append.2 ⟨has, hbs, fun x hx => forall_rel_of_head (h x hx) hbs⟩

theorem pairwise_of_round {front others front' others' rest : List α} {next : α}
    (has : front ++ next :: others = as) (hbs : front' ++ others' = bs)
    (hsorted : as.Pairwise S) (hsorted' : (b :: bs).Pairwise S)
    (hfront : ∀ x ∈ front, S x b) (hnext : S b next) (hfront' : ∀ x ∈ front', S x next)
    (hothers' : ∀ x ∈ others', S next x) (hperm : rest.Perm (others ++ others'))
    (hrest : rest.Pairwise S) : (front ++ b :: front' ++ next :: rest).Pairwise S := by
  subst has hbs
  rw [List.pairwise_append, List.pairwise_cons] at hsorted
  rw [List.pairwise_cons, List.pairwise_append] at hsorted'
  obtain ⟨hsfront, ⟨hnextOthers, -⟩, -⟩ := hsorted
  obtain ⟨hb, hsfront', -, -⟩ := hsorted'
  have hnextRest : ∀ x ∈ rest, S next x := by
    intro x hx
    cases List.mem_append.1 (hperm.subset hx) with
    | inl hx => exact hnextOthers x hx
    | inr hx => exact hothers' x hx
  have hblock : (b :: front').Pairwise S :=
    List.pairwise_cons.2 ⟨fun x hx => hb x (List.mem_append_left _ hx), hsfront'⟩
  refine pairwise_append_of_rel (pairwise_append_of_rel hsfront hblock hfront)
    (List.pairwise_cons.2 ⟨hnextRest, hrest⟩) fun x hx => ?_
  cases List.mem_append.1 hx with
  | inl hx => exact trans_of S (hfront x hx) hnext
  | inr hx =>
    cases List.mem_cons.1 hx with
    | inl heq => exact heq ▸ hnext
    | inr hx => exact hfront' x hx

theorem forall_rel_of_last {y : α} (has : as.Pairwise S) (ha : a ∈ as.getLast?)
    (h : S a y) : ∀ x ∈ as, S x y := by
  have hreverse : (a :: as.reverse.tail).Pairwise (flip S) := by
    rw [← reverse_of_getLast? ha]
    exact List.pairwise_reverse.2 has
  intro x hx
  rw [← List.mem_reverse, reverse_of_getLast? ha] at hx
  cases List.mem_cons.1 hx with
  | inl heq => exact heq ▸ h
  | inr hx => exact trans_of S (List.rel_of_pairwise_cons hreverse hx) h

end Rounds

theorem isTrans_flip [IsTrans α R] : IsTrans α (flip R) :=
  ⟨fun _ _ _ hab hbc => trans_of R hbc hab⟩

theorem getLast?_of_drop {xs tail : List α} {x : α} {k : Nat} (h : xs.drop k = tail)
    (hx : x ∈ tail.getLast?) : x ∈ xs.getLast? := by
  rw [← take_append_of_drop h]
  exact List.mem_getLast?_append_of_mem_getLast? hx

theorem suffix_of_drop {xs tail : List α} {k : Nat} (h : xs.drop k = tail) : tail <:+ xs :=
  h ▸ List.drop_suffix k xs

/-- Two runs in order whose elements stand in some relation. The outer one ends last. -/
structure Mergeable (S C : α → α → Prop) (outer inner : List α) : Prop where
  outerSorted : outer.Pairwise S
  innerSorted : inner.Pairwise S
  cross : ∀ x ∈ outer, ∀ y ∈ inner, C x y
  last : ∀ x ∈ outer.getLast?, ∀ y ∈ inner, S y x

theorem Mergeable.of_suffix {S C : α → α → Prop} {outer inner outer' inner' : List α}
    (h : Mergeable S C outer inner) (hx : outer' <:+ outer) (hy : inner' <:+ inner) :
    Mergeable S C outer' inner' where
  outerSorted := h.outerSorted.sublist hx.sublist
  innerSorted := h.innerSorted.sublist hy.sublist
  cross x hx' y hy' := h.cross x (hx.subset hx') y (hy.subset hy')
  last x hx' y hy' := by
    obtain ⟨front, rfl⟩ := hx
    exact h.last x (List.mem_getLast?_append_of_mem_getLast? hx') y (hy.subset hy')

/-- The elements of two runs are told apart by the comparison. -/
def Across (R : α → α → Prop) (lt : α → α → Id Bool) (as bs : List α) : Prop :=
  ∀ a ∈ as, ∀ b ∈ bs, Decides R lt a b

theorem Across.subset {as bs as' bs' : List α} (h : Across R lt as bs) (has : as' ⊆ as)
    (hbs : bs' ⊆ bs) : Across R lt as' bs' :=
  fun a ha b hb => h a (has ha) b (hbs hb)

section Merges

variable [IsStrictOrder α R]

theorem pairwise_mergeUp_strides {kept patience : Nat} {a a' : α} {as : List α} {b : α}
    {bs : List α} (h : Mergeable R (Decides R lt) (a :: a' :: as) (b :: bs))
    (ih : ∀ (kept : Nat) (pace : Pace) (as' bs' : List α),
      as'.length + bs'.length < (a :: a' :: as).length + (b :: bs).length →
      Mergeable R (Decides R lt) as' bs' → (mergeUp lt kept pace as' bs').run.1.Pairwise R) :
    (mergeUp lt kept (.strides patience) (a :: a' :: as) (b :: bs)).run.1.Pairwise R := by
  rw [mergeUp_strides, Id.run_bind]
  have hsearch := boundary_earlier h.outerSorted (fun x hx => h.cross x hx b List.mem_cons_self)
    (Nat.zero_le _)
  generalize Id.run (boundary _ (a :: a' :: as) 0) = k at hsearch
  obtain ⟨hfront, hback⟩ := hsearch
  split
  · next hdrop =>
    rw [List.take_of_length_le (List.drop_eq_nil_iff.1 hdrop)] at hfront
    exact pairwise_append_of_rel h.outerSorted h.innerSorted hfront
  · next last hdrop =>
    refine pairwise_of_round (take_append_of_drop hdrop) (List.append_nil bs) h.outerSorted
      h.innerSorted hfront (hback last (by simp [hdrop])) (fun x hx => ?_) (by simp)
      (List.Perm.refl []) .nil
    exact h.last last (getLast?_of_drop hdrop rfl) x (List.mem_cons_of_mem b hx)
  · next next others hne hdrop =>
    have hsuffix : next :: others <:+ a :: a' :: as := suffix_of_drop hdrop
    have hbs : bs.Pairwise R := h.innerSorted.tail
    rw [Id.run_bind]
    have hsearch' := boundary_later hbs
      (fun x hx => h.cross next (hsuffix.subset List.mem_cons_self) x (List.mem_cons_of_mem b hx))
      (Nat.zero_le _)
    generalize (boundary (lt · next) bs 0).run = l at hsearch'
    obtain ⟨hfront', hback'⟩ := hsearch'
    have hlt : others.length + (bs.drop l).length < (a :: a' :: as).length + (b :: bs).length := by
      have hlength := hsuffix.length_le
      simp only [List.length_drop, List.length_cons] at hlength ⊢
      omega
    have hrest := ih patience (.afterStrides patience k l) others (bs.drop l) hlt
      (h.of_suffix ((List.suffix_cons next others).trans hsuffix)
        ((List.drop_suffix l bs).trans (List.suffix_cons b bs)))
    exact pairwise_of_round (take_append_of_drop hdrop) (List.take_append_drop l bs) h.outerSorted
      h.innerSorted hfront (hback next (by simp [hdrop])) hfront' hback' (mergeUp_perm lt _ _ _ _)
      hrest

theorem pairwise_mergeUp (kept : Nat) (pace : Pace) {as bs : List α}
    (h : Mergeable R (Decides R lt) as bs) : (mergeUp lt kept pace as bs).run.1.Pairwise R := by
  induction hlen : as.length + bs.length using Nat.strongRecOn generalizing kept pace as bs with
  | ind n ih =>
    match as, bs with
    | [], bs =>
      rw [mergeUp.eq_def]
      exact h.innerSorted
    | a :: as, [] =>
      rw [mergeUp.eq_def]
      exact h.outerSorted
    | [a], b :: bs =>
      rw [mergeUp.eq_def]
      exact pairwise_append_of_rel h.innerSorted h.outerSorted (h.last a rfl)
    | a :: a' :: as, b :: bs =>
      have hab := h.cross a List.mem_cons_self b List.mem_cons_self
      cases pace with
      | pairwise patience leftWins rightWins =>
        rw [mergeUp_pairwise, Id.run_bind]
        cases hlt : (lt b a).run with
        | true =>
          have hrest := ih _ (by simp at hlen ⊢; omega) patience (.afterRight patience rightWins)
            (h.of_suffix (List.suffix_refl _) (List.suffix_cons b bs)) rfl
          refine List.pairwise_cons.2 ⟨fun x hx => ?_, hrest⟩
          have hmem := (mergeUp_perm lt _ _ _ _).subset hx
          exact forall_rel_of_first (hab.of_lt hlt) h.innerSorted h.outerSorted x
            (List.perm_append_comm.subset hmem)
        | false =>
          have hrest := ih _ (by simp at hlen ⊢; omega) patience (.afterLeft patience leftWins)
            (h.of_suffix (List.suffix_cons a _) (List.suffix_refl _)) rfl
          refine List.pairwise_cons.2 ⟨fun x hx => ?_, hrest⟩
          exact forall_rel_of_first (hab.of_not_lt hlt) h.outerSorted h.innerSorted x
            ((mergeUp_perm lt _ _ _ _).subset hx)
      | strides patience =>
        exact pairwise_mergeUp_strides h fun kept pace as' bs' hlt h' =>
          ih _ (hlen ▸ hlt) kept pace h' rfl

theorem pairwise_mergeDown_strides {kept patience : Nat} {a : α} {as : List α} {b b' : α}
    {bs : List α} (h : Mergeable (flip R) (flip (Decides R lt)) (b :: b' :: bs) (a :: as))
    (ih : ∀ (kept : Nat) (pace : Pace) (as' bs' : List α),
      as'.length + bs'.length < (a :: as).length + (b :: b' :: bs).length →
      Mergeable (flip R) (flip (Decides R lt)) bs' as' →
      (mergeDown lt kept pace as' bs').run.1.Pairwise (flip R)) :
    (mergeDown lt kept (.strides patience) (a :: as) (b :: b' :: bs)).run.1.Pairwise (flip R) := by
  have : IsTrans α (flip R) := isTrans_flip
  rw [mergeDown_strides, Id.run_bind]
  have hsearch := boundary_earlier_reverse h.innerSorted
    (fun x hx => h.cross b List.mem_cons_self x hx) (Nat.le_succ as.length)
  dsimp only
  rw [List.length_cons] at hsearch
  generalize as.length + 1 - _ = k at hsearch
  obtain ⟨hfront, hback⟩ := hsearch
  split
  · next hdrop =>
    rw [List.take_of_length_le (List.drop_eq_nil_iff.1 hdrop)] at hfront
    exact pairwise_append_of_rel h.innerSorted h.outerSorted hfront
  · next next others hdrop =>
    have hsuffix : next :: others <:+ a :: as := suffix_of_drop hdrop
    have hbs : (b' :: bs).Pairwise (flip R) := h.outerSorted.tail
    have hnext := hback next (by simp [hdrop])
    -- the rest of the left run, then the first element of the right one
    have hclosed {first : α} (hfirst : first ∈ (b :: b' :: bs).getLast?) :
        (others ++ [first]).Pairwise (flip R) := by
      have hothers := h.innerSorted.sublist hsuffix.sublist
      refine pairwise_append_of_rel hothers.tail (List.pairwise_singleton _ first) fun x hx => ?_
      exact h.last first hfirst x (hsuffix.subset (List.mem_cons_of_mem next hx))
    split
    · have hfirst := h.last b' rfl next (hsuffix.subset List.mem_cons_self)
      have hround := pairwise_of_round (S := flip R) (take_append_of_drop hdrop)
        (List.nil_append [b']) h.innerSorted h.outerSorted hfront hnext (by simp)
        (List.forall_mem_singleton.2 hfirst) (List.Perm.refl _) (hclosed rfl)
      simpa using hround
    · rw [Id.run_bind]
      have hsearch' := boundary_later_reverse hbs
        (fun x hx => h.cross x (List.mem_cons_of_mem b hx) next (hsuffix.subset List.mem_cons_self))
        (Nat.le_succ bs.length)
      rw [List.length_cons] at hsearch'
      generalize bs.length + 1 - Id.run _ = l at hsearch'
      obtain ⟨hfront', hback'⟩ := hsearch'
      split
      · next hdrop' =>
        rw [List.take_of_length_le (List.drop_eq_nil_iff.1 hdrop')] at hfront'
        exact pairwise_of_round (take_append_of_drop hdrop) (List.append_nil (b' :: bs))
          h.innerSorted h.outerSorted hfront hnext hfront' (by simp) (by rw [List.append_nil])
          (h.innerSorted.sublist hsuffix.sublist).tail
      · next first hdrop' =>
        have hround := pairwise_of_round (S := flip R) (take_append_of_drop hdrop)
          (take_append_of_drop hdrop') h.innerSorted h.outerSorted hfront hnext hfront'
          (by rwa [hdrop'] at hback') (List.Perm.refl _)
          (hclosed (List.mem_getLast?_cons (getLast?_of_drop hdrop' rfl)))
        simpa using hround
      · have hlt : others.length + ((b' :: bs).drop l).length <
            (a :: as).length + (b :: b' :: bs).length := by
          have hlength := hsuffix.length_le
          simp only [List.length_drop, List.length_cons] at hlength ⊢
          omega
        have hrest := ih patience (.afterStrides patience k l) others ((b' :: bs).drop l) hlt
          (h.of_suffix ((List.drop_suffix l _).trans (List.suffix_cons b _))
            ((List.suffix_cons next others).trans hsuffix))
        exact pairwise_of_round (take_append_of_drop hdrop) (List.take_append_drop l (b' :: bs))
          h.innerSorted h.outerSorted hfront hnext hfront' hback' (mergeDown_perm lt _ _ _ _) hrest

theorem pairwise_mergeDown (kept : Nat) (pace : Pace) {as bs : List α}
    (h : Mergeable (flip R) (flip (Decides R lt)) bs as) :
    (mergeDown lt kept pace as bs).run.1.Pairwise (flip R) := by
  have : IsTrans α (flip R) := isTrans_flip
  induction hlen : as.length + bs.length using Nat.strongRecOn generalizing kept pace as bs with
  | ind n ih =>
    match as, bs with
    | [], bs =>
      rw [mergeDown.eq_def]
      exact h.outerSorted
    | a :: as, [] =>
      rw [mergeDown.eq_def]
      exact h.innerSorted
    | a :: as, [b] =>
      rw [mergeDown.eq_def]
      exact pairwise_append_of_rel h.innerSorted h.outerSorted (h.last b rfl)
    | a :: as, b :: b' :: bs =>
      have hab : Decides R lt a b := h.cross b List.mem_cons_self a List.mem_cons_self
      cases pace with
      | pairwise patience leftWins rightWins =>
        rw [mergeDown_pairwise, Id.run_bind]
        cases hlt : (lt b a).run with
        | true =>
          have hrest := ih _ (by simp at hlen ⊢; omega) patience (.afterLeft patience leftWins)
            (h.of_suffix (List.suffix_refl _) (List.suffix_cons a as)) rfl
          refine List.pairwise_cons.2 ⟨fun x hx => ?_, hrest⟩
          exact forall_rel_of_first (S := flip R) (hab.of_lt hlt) h.innerSorted h.outerSorted x
            ((mergeDown_perm lt _ _ _ _).subset hx)
        | false =>
          have hrest := ih _ (by simp at hlen ⊢; omega) patience (.afterRight patience rightWins)
            (h.of_suffix (List.suffix_cons b _) (List.suffix_refl _)) rfl
          refine List.pairwise_cons.2 ⟨fun x hx => ?_, hrest⟩
          have hmem := (mergeDown_perm lt _ _ _ _).subset hx
          exact forall_rel_of_first (S := flip R) (hab.of_not_lt hlt) h.outerSorted h.innerSorted x
            (List.perm_append_comm.subset hmem)
      | strides patience =>
        exact pairwise_mergeDown_strides h fun kept pace as' bs' hlt h' =>
          ih _ (hlen ▸ hlt) kept pace h' rfl

theorem pairwise_cons_mergeUp {as bs : List α} {a b : α} (patience : Nat) (has : as.Pairwise R)
    (hbs : (b :: bs).Pairwise R) (hcross : Across R lt as (b :: bs)) (hlast : as.getLast? = some a)
    (hleast : ∀ x ∈ as, R b x) (hgreatest : ∀ y ∈ b :: bs, R y a) :
    (b :: (mergeUp lt patience (.pairwise patience 0 0) as bs).run.1).Pairwise R := by
  have hmergeable : Mergeable R (Decides R lt) as bs := by
    refine ⟨has, hbs.tail, hcross.subset (List.Subset.refl as) (List.subset_cons_self b bs), ?_⟩
    intro x hx y hy
    rw [hlast, Option.mem_some_iff] at hx
    exact hx ▸ hgreatest y (List.mem_cons_of_mem b hy)
  refine List.pairwise_cons.2 ⟨fun x hx => ?_, pairwise_mergeUp _ _ hmergeable⟩
  cases List.mem_append.1 ((mergeUp_perm lt _ _ as bs).subset hx) with
  | inl hx => exact hleast x hx
  | inr hx => exact List.rel_of_pairwise_cons hbs hx

theorem pairwise_cons_mergeDown {as bs : List α} {a b : α} (patience : Nat) (has : as.Pairwise R)
    (hbs : (b :: bs).Pairwise R) (hcross : Across R lt as (b :: bs)) (hlast : as.getLast? = some a)
    (hleast : ∀ x ∈ as, R b x) (hgreatest : ∀ y ∈ b :: bs, R y a) :
    (a :: (mergeDown lt patience (.pairwise patience 0 0) as.reverse.tail
      (b :: bs).reverse).run.1).reverse.Pairwise R := by
  have hreverse : (a :: as.reverse.tail).Pairwise (flip R) := by
    rw [← reverse_of_getLast? hlast]
    exact List.pairwise_reverse.2 has
  have hsub : as.reverse.tail ⊆ as := fun x hx => List.mem_reverse.1 (List.mem_of_mem_tail hx)
  have hmergeable : Mergeable (flip R) (flip (Decides R lt)) (b :: bs).reverse as.reverse.tail := by
    refine ⟨List.pairwise_reverse.2 hbs, hreverse.tail,
      fun y hy x hx => hcross x (hsub hx) y (List.mem_reverse.1 hy), fun x hx y hy => ?_⟩
    rw [List.getLast?_reverse] at hx
    exact Option.some.inj hx ▸ hleast y (hsub hy)
  refine List.pairwise_reverse.2
    (List.pairwise_cons.2 ⟨fun x hx => ?_, pairwise_mergeDown _ _ hmergeable⟩)
  cases List.mem_append.1 ((mergeDown_perm lt _ _ _ _).subset hx) with
  | inl hx => exact List.rel_of_pairwise_cons hreverse hx
  | inr hx => exact hgreatest x (List.mem_reverse.1 hx)

theorem pairwise_merge {as bs : List α} (has : as.Pairwise R) (hbs : bs.Pairwise R)
    (hcross : Across R lt as bs) (patience : Nat) :
    ((merge lt as bs).run patience).run.1.Pairwise R := by
  rw [StateT.run, merge.eq_def]
  split
  · exact has
  · next b bs =>
    rw [Id.run_bind]
    have hsearch := boundary_earlier has (fun x hx => hcross x hx b List.mem_cons_self)
      (Nat.zero_le _)
    generalize Id.run (boundary _ as 0) = k at hsearch
    obtain ⟨hfront, hback⟩ := hsearch
    split
    · next hlast =>
      rw [List.getLast?_eq_none_iff, List.drop_eq_nil_iff] at hlast
      rw [List.take_of_length_le hlast] at hfront
      exact pairwise_append_of_rel has hbs hfront
    · next a hlast =>
      have hmem : a ∈ as.drop k := List.mem_of_getLast? hlast
      have hba := hback a hmem
      rw [Id.run_bind]
      have hsearch' := boundary_later hbs (hcross a (List.mem_of_mem_drop hmem))
        (Nat.sub_le (b :: bs).length 1)
      generalize Id.run (boundary _ (b :: bs) _) = l at hsearch'
      obtain ⟨hfront', hback'⟩ := hsearch'
      split
      · next htake =>
        rw [List.take_eq_nil_iff.1 htake |>.resolve_right (List.cons_ne_nil b bs)] at hback'
        exact absurd hba (asymm (hback' b List.mem_cons_self))
      · next b' rest htake =>
        have htaken : (b' :: rest).Pairwise R := htake ▸ hbs.sublist (List.take_sublist l _)
        have hdropped : (as.drop k).Pairwise R := has.sublist (List.drop_sublist k as)
        have hpart : b' :: rest ⊆ b :: bs := htake ▸ List.take_subset l _
        have hhead : b' = b := by
          have hhead := congrArg List.head? htake
          cases l with
          | zero => simp at htake
          | succ l => exact (Option.some.inj hhead).symm
        subst hhead
        have hcross' : Across R lt (as.drop k) (b' :: rest) :=
          hcross.subset (List.drop_subset k as) hpart
        have hbefore : ∀ x ∈ as.take k, ∀ y ∈ b' :: bs, R x y := fun x hx =>
          forall_rel_of_head (hfront x hx) hbs
        have hbehind : ∀ y ∈ (b' :: bs).drop l, ∀ x ∈ as, R x y := fun y hy =>
          forall_rel_of_last has (getLast?_of_drop rfl hlast) (hback' y hy)
        rw [htake] at hfront'
        split
        · refine pairwise_between has hbs hbefore hbehind (pairwise_cons_mergeUp patience hdropped
            htaken hcross' hlast hback hfront') ?_
          rw [htake]
          exact ((mergeUp_perm lt _ _ _ _).cons b').trans List.perm_middle.symm
        · refine pairwise_between has hbs hbefore hbehind
            (pairwise_cons_mergeDown patience hdropped htaken hcross' hlast hback hfront') ?_
          rw [htake]
          refine (List.reverse_perm _).trans (((mergeDown_perm lt _ _ _ _).cons a).trans ?_)
          rw [← List.cons_append, ← reverse_of_getLast? hlast]
          exact (List.reverse_perm _).append (List.reverse_perm _)

structure Runs (R : α → α → Prop) (lt : α → α → Id Bool) (rs : List (List α)) : Prop where
  sorted : ∀ r ∈ rs, r.Pairwise R
  apart : rs.Pairwise fun later earlier => Across R lt earlier later

omit [IsStrictOrder α R] in
theorem Runs.join {a b merged : List α} {rs rs' : List (List α)}
    (h : Runs R lt (rs ++ b :: a :: rs')) (hsorted : merged.Pairwise R)
    (hperm : merged.Perm (a ++ b)) : Runs R lt (rs ++ merged :: rs') := by
  obtain ⟨hruns, hapart⟩ := h
  have hmerged {x : α} (hx : x ∈ merged) : x ∈ a ∨ x ∈ b := List.mem_append.1 (hperm.subset hx)
  simp only [List.pairwise_append, List.pairwise_cons, List.forall_mem_cons] at hapart
  obtain ⟨hrs, ⟨⟨-, hb⟩, ha, hrs'⟩, hcross⟩ := hapart
  constructor
  · simp only [List.forall_mem_append, List.forall_mem_cons] at hruns ⊢
    exact ⟨hruns.1, hsorted, hruns.2.2.2⟩
  · simp only [List.pairwise_append, List.pairwise_cons, List.forall_mem_cons]
    refine ⟨hrs, ⟨fun r hr x hx y hy => ?_, hrs'⟩, fun r hr => ⟨fun x hx y hy => ?_, ?_⟩⟩
    · cases hmerged hy with
      | inl hy => exact ha r hr x hx y hy
      | inr hy => exact hb r hr x hx y hy
    · cases hmerged hx with
      | inl hx => exact (hcross r hr).2.1 x hx y hy
      | inr hx => exact (hcross r hr).1 x hx y hy
    · exact (hcross r hr).2.2

theorem Runs.merge {a b : List α} (rs : List (List α)) {rs' : List (List α)}
    (h : Runs R lt (rs ++ b :: a :: rs')) (patience : Nat) :
    Runs R lt (rs ++ ((merge lt a b).run patience).run.1 :: rs') := by
  have hapart := (List.pairwise_append.1 h.apart).2.1
  refine h.join (pairwise_merge ?_ ?_ ?_ patience) (merge_perm lt a b patience)
  · exact h.sorted a (by simp)
  · exact h.sorted b (by simp)
  · exact List.rel_of_pairwise_cons hapart List.mem_cons_self

theorem runs_absorb {rs : List (List α)} {waiting : List (Waiting α)} {run : List α}
    (power patience : Nat) (h : Runs R lt (rs ++ run :: waiting.map (·.run))) :
    Runs R lt (rs ++ ((absorb lt power waiting run).run patience).run.1.2 ::
      ((absorb lt power waiting run).run patience).run.1.1.map (·.run)) := by
  induction waiting generalizing run patience with
  | nil => exact h
  | cons w waiting ih =>
    rw [absorb]
    split
    · rw [StateT.run_bind, Id.run_bind]
      exact ih _ (h.merge rs patience)
    · exact h

theorem pairwise_mergeRest {rs : List (List α)} (patience : Nat) (h : Runs R lt rs) :
    ((mergeRest lt rs).run patience).run.1.Pairwise R := by
  induction rs using mergeRest.induct generalizing patience with
  | case1 =>
    rw [mergeRest]
    exact .nil
  | case2 run =>
    rw [mergeRest]
    exact h.sorted run List.mem_cons_self
  | case3 c b =>
    rw [mergeRest]
    exact (Runs.merge [] h patience).sorted _ List.mem_cons_self
  | case4 c b a before hlt ih =>
    rw [mergeRest, if_pos hlt, StateT.run_bind, Id.run_bind]
    exact ih _ _ (Runs.merge [c] h patience)
  | case5 c b a before hlt ih =>
    rw [mergeRest, if_neg hlt, StateT.run_bind, Id.run_bind]
    exact ih _ _ (Runs.merge [] h patience)

theorem pairwise_mergeRuns {rs : List (List α)} {waiting : List (Waiting α)} {run : List α}
    (n stop patience : Nat) (h : Runs R lt (rs.reverse ++ run :: waiting.map (·.run))) :
    ((mergeRuns lt n stop waiting run rs).run patience).run.1.Pairwise R := by
  induction rs generalizing stop waiting run patience with
  | nil =>
    rw [mergeRuns]
    exact pairwise_mergeRest patience h
  | cons next rs ih =>
    rw [mergeRuns, StateT.run_bind, Id.run_bind]
    refine ih _ _ ?_
    have habsorbed := runs_absorb (power n (stop - run.length) run.length next.length) patience h
    simpa using habsorbed

theorem runs_runs (least : Nat) {as : List α} (h : as.Pairwise (Decides R lt)) :
    Runs R lt (runs lt least as).run.reverse := by
  induction hlen : as.length using Nat.strongRecOn generalizing as with
  | ind n ih =>
    have hrun := pairwise_nextRun least h
    obtain ⟨front, hfront, hperm⟩ :=
      exists_perm_of_suffix (nextRun_suffix lt least as) (nextRun_perm lt least as)
    rw [runs, Id.run_bind]
    generalize (nextRun lt least as).run = cut at hrun hfront hperm
    obtain ⟨run, rest⟩ := cut
    dsimp only at hrun hfront hperm ⊢
    split
    · next hrest =>
      rw [← hfront, List.pairwise_append] at h
      have hruns := ih _ (hlen ▸ hrest.1) h.2.1 rfl
      have hmem {r : List α} (hr : r ∈ (runs lt least rest).run) : r ⊆ rest := fun x hx =>
        (runs_perm lt least rest).subset (List.mem_flatten_of_mem hr hx)
      rw [Id.run_bind]
      change Runs R lt (run :: (runs lt least rest).run).reverse
      rw [List.reverse_cons]
      constructor
      · rw [List.forall_mem_append, List.forall_mem_singleton]
        exact ⟨hruns.sorted, hrun⟩
      · rw [List.pairwise_append]
        refine ⟨hruns.apart, List.pairwise_singleton _ _, fun r hr => ?_⟩
        refine List.forall_mem_singleton.2 fun x hx y hy => ?_
        exact h.2.2 x (hperm.subset hx) y (hmem (List.mem_reverse.1 hr) hy)
    · refine ⟨fun r hr => ?_, List.pairwise_singleton _ _⟩
      rw [List.mem_singleton.1 hr]
      exact hrun

/-- Sorting puts a list into the order that its comparison decides. -/
theorem pairwise_sort {lt : α → α → Bool} {as : List α}
    (h : as.Pairwise (Decides R fun a b => pure (lt a b))) : (sort lt as).Pairwise R := by
  have hruns := runs_runs (leastRun as.length) h
  rw [sort, sortM, Id.run_bind]
  generalize Id.run (runs _ _ as) = rs at hruns
  cases rs with
  | nil => exact .nil
  | cons run rs =>
    refine pairwise_mergeRuns as.length run.length firstPatience ?_
    simpa using hruns

end Merges

end CardGrove.Sorting
