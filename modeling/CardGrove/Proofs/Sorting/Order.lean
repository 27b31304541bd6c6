import CardGrove.Proofs.Sorting.Permutation
import CardGrove.Proofs.Sorting.Search
import Mathlib.Control.Traversable.Basic
import Mathlib.Order.Defs.Unbundled

/-! Sorting into a strict order. Of two elements, the later one is always asked whether it precedes
the earlier one, never the other way round. So if these answers are those of a strict order,
whatever the comparison would say when asked the other way, every stage hands on what is in that
order. -/
namespace CardGrove.Sorting

variable {α : Type} {R : α → α → Prop} {lt : α → α → Id Bool}

/-- Asked whether `b`, which stands later, precedes `a`, the comparison answers as the order has
it. -/
def Decides (R : α → α → Prop) (lt : α → α → Id Bool) (a b : α) : Prop :=
  if (lt b a).run then R b a else R a b

theorem Decides.of_lt {a b : α} (h : Decides R lt a b) (hlt : (lt b a).run = true) : R b a := by
  rwa [Decides, if_pos hlt] at h

theorem Decides.of_not_lt {a b : α} (h : Decides R lt a b) (hlt : (lt b a).run = false) :
    R a b := by
  rwa [Decides, if_neg (Bool.eq_false_iff.1 hlt)] at h

section Order

variable [IsStrictOrder α R] {a b : α} {as bs : List α}

theorem Decides.lt_of (h : Decides R lt a b) (hba : R b a) : (lt b a).run = true := by
  rw [← Bool.not_eq_false]
  exact fun hlt => asymm hba (h.of_not_lt hlt)

theorem Decides.not_lt_of (h : Decides R lt a b) (hab : R a b) : (lt b a).run = false := by
  rw [← Bool.not_eq_true]
  exact fun hlt => asymm hab (h.of_lt hlt)

theorem pairwise_not_lt (has : as.Pairwise R) (h : ∀ a ∈ as, Decides R lt a b) :
    as.Pairwise fun x y =>
      (not <$> lt b y).run = true → (not <$> lt b x).run = true := by
  refine has.imp_of_mem fun {x y} hx hy hxy hpass => ?_
  rw [Id.run_map, Bool.not_eq_true'] at hpass ⊢
  exact (h x hx).not_lt_of (trans_of R hxy ((h y hy).of_not_lt hpass))

theorem pairwise_lt (hbs : bs.Pairwise R) (h : ∀ b ∈ bs, Decides R lt a b) :
    bs.Pairwise fun x y => (lt y a).run = true → (lt x a).run = true := by
  refine hbs.imp_of_mem fun {x y} hx hy hxy hpass => ?_
  exact (h x hx).lt_of (trans_of R hxy ((h y hy).of_lt hpass))

theorem boundary_earlier (has : as.Pairwise R) (h : ∀ a ∈ as, Decides R lt a b) {start : Nat}
    (hstart : start ≤ as.length) :
    (∀ x ∈ as.take (boundary (fun x => not <$> lt b x) as start).run, R x b) ∧
    ∀ x ∈ as.drop (boundary (fun x => not <$> lt b x) as start).run, R b x := by
  obtain ⟨htake, hdrop⟩ := forall_boundary (pairwise_not_lt has h) hstart
  refine ⟨fun x hx => (h x (List.mem_of_mem_take hx)).of_not_lt ?_,
    fun x hx => (h x (List.mem_of_mem_drop hx)).of_lt ?_⟩
  · simpa using htake x hx
  · simpa using hdrop x hx

theorem boundary_later (hbs : bs.Pairwise R) (h : ∀ b ∈ bs, Decides R lt a b) {start : Nat}
    (hstart : start ≤ bs.length) :
    (∀ x ∈ bs.take (boundary (lt · a) bs start).run, R x a) ∧
    ∀ x ∈ bs.drop (boundary (lt · a) bs start).run, R a x := by
  obtain ⟨htake, hdrop⟩ := forall_boundary (pairwise_lt hbs h) hstart
  exact ⟨fun x hx => (h x (List.mem_of_mem_take hx)).of_lt (htake x hx),
    fun x hx => (h x (List.mem_of_mem_drop hx)).of_not_lt (hdrop x hx)⟩

theorem boundary_earlier_reverse (has : as.Pairwise (flip R)) (h : ∀ a ∈ as, Decides R lt a b)
    {start : Nat} (hstart : start ≤ as.length) :
    (∀ x ∈ as.take (as.length - (boundary (fun x => not <$> lt b x) as.reverse start).run),
      flip R x b) ∧
    ∀ x ∈ as.drop (as.length - (boundary (fun x => not <$> lt b x) as.reverse start).run),
      flip R b x := by
  have hforth : as.reverse.Pairwise R := List.pairwise_reverse.2 has
  have hstart' : start ≤ as.reverse.length := by rwa [List.length_reverse]
  have hsearch := boundary_earlier hforth (fun x hx => h x (List.mem_reverse.1 hx)) hstart'
  rw [List.take_reverse, List.drop_reverse] at hsearch
  exact ⟨fun x hx => hsearch.2 x (List.mem_reverse.2 hx),
    fun x hx => hsearch.1 x (List.mem_reverse.2 hx)⟩

theorem boundary_later_reverse (hbs : bs.Pairwise (flip R)) (h : ∀ b ∈ bs, Decides R lt a b)
    {start : Nat} (hstart : start ≤ bs.length) :
    (∀ x ∈ bs.take (bs.length - (boundary (lt · a) bs.reverse start).run), flip R x a) ∧
    ∀ x ∈ bs.drop (bs.length - (boundary (lt · a) bs.reverse start).run), flip R a x := by
  have hforth : bs.reverse.Pairwise R := List.pairwise_reverse.2 hbs
  have hstart' : start ≤ bs.reverse.length := by rwa [List.length_reverse]
  have hsearch := boundary_later hforth (fun x hx => h x (List.mem_reverse.1 hx)) hstart'
  rw [List.take_reverse, List.drop_reverse] at hsearch
  exact ⟨fun x hx => hsearch.2 x (List.mem_reverse.2 hx),
    fun x hx => hsearch.1 x (List.mem_reverse.2 hx)⟩

theorem insertIdx_eq_take_drop (as : List α) (b : α) {k : Nat} (h : k ≤ as.length) :
    as.insertIdx k b = as.take k ++ b :: as.drop k := by
  induction as generalizing k with
  | nil => simp [Nat.le_zero.1 h]
  | cons a as ih =>
    cases k with
    | zero => rfl
    | succ k => simpa using ih (by simpa using h)

def insertion (lt : α → α → Id Bool) (as : List α) (b : α) : Nat :=
  (bisect (fun a => not <$> lt b a) as 0 as.length).run

theorem run_insert (lt : α → α → Id Bool) (as : List α) (b : α) :
    (insert lt as b).run =
      as.take (insertion lt as b) ++ b :: as.drop (insertion lt as b) :=
  insertIdx_eq_take_drop as b (bisect_le (fun a => not <$> lt b a) as (Nat.zero_le as.length))

theorem pairwise_insert (has : as.Pairwise R) (h : ∀ a ∈ as, Decides R lt a b) :
    (insert lt as b).run.Pairwise R := by
  obtain ⟨hpass, hfail⟩ := forall_bisect (pairwise_not_lt has h)
  have hbelow : ∀ x ∈ as.take (insertion lt as b), R x b := fun x hx =>
    (h x (List.mem_of_mem_take hx)).of_not_lt (by simpa using hpass x hx)
  have habove : ∀ x ∈ as.drop (insertion lt as b), R b x := fun x hx =>
    (h x (List.mem_of_mem_drop hx)).of_lt (by simpa using hfail x hx)
  have hparts : (as.take (insertion lt as b) ++ as.drop (insertion lt as b)).Pairwise R := by
    rwa [List.take_append_drop]
  rw [run_insert]
  rw [List.pairwise_append] at hparts ⊢
  refine ⟨hparts.1, List.pairwise_cons.2 ⟨habove, hparts.2.1⟩, fun x hx => ?_⟩
  exact List.forall_mem_cons.2 ⟨hbelow x hx, hparts.2.2 x hx⟩

theorem pairwise_foldlM_insert {run xs : List α} (hrun : run.Pairwise R)
    (hcross : ∀ a ∈ run, ∀ x ∈ xs, Decides R lt a x) (hxs : xs.Pairwise (Decides R lt)) :
    (xs.foldlM (insert lt) run).run.Pairwise R := by
  induction xs generalizing run with
  | nil => exact hrun
  | cons x xs ih =>
    obtain ⟨hx, hxs⟩ := List.pairwise_cons.1 hxs
    have hinsert := pairwise_insert hrun fun a ha => hcross a ha x List.mem_cons_self
    rw [List.foldlM_cons, Id.run_bind]
    refine ih hinsert (fun a ha y hy => ?_) hxs
    cases List.mem_cons.1 ((insert_perm lt run x).subset ha) with
    | inl heq => exact heq ▸ hx y hy
    | inr ha => exact hcross a ha y (List.mem_cons_of_mem x hy)

theorem pairwise_descendingRun {taken : List α} (htaken : (a :: taken).Pairwise R)
    (h : (a :: bs).Pairwise (Decides R lt)) :
    (descendingRun lt a taken bs).run.1.Pairwise R := by
  induction bs generalizing a taken with
  | nil => exact htaken
  | cons b bs ih =>
    obtain ⟨hab, hbs⟩ := List.pairwise_cons.1 h
    rw [descendingRun, Id.run_bind]
    cases hlt : (lt b a).run with
    | true =>
      have hba := (hab b List.mem_cons_self).of_lt hlt
      refine ih (List.pairwise_cons.2 ⟨List.forall_mem_cons.2 ⟨hba, fun x hx => ?_⟩, htaken⟩) hbs
      exact trans_of R hba (List.rel_of_pairwise_cons htaken hx)
    | false => exact htaken

theorem pairwise_ascendingRun (h : (a :: bs).Pairwise (Decides R lt)) :
    (ascendingRun lt a bs).run.1.Pairwise R ∧
    ∀ x ∈ (ascendingRun lt a bs).run.1, x = a ∨ R a x := by
  induction bs generalizing a with
  | nil => simp [ascendingRun]
  | cons b bs ih =>
    obtain ⟨hab, hbs⟩ := List.pairwise_cons.1 h
    rw [ascendingRun, Id.run_bind]
    cases hlt : (lt b a).run with
    | true => simp
    | false =>
      have hab := (hab b List.mem_cons_self).of_not_lt hlt
      obtain ⟨hrun, hfirst⟩ := ih hbs
      have hrest : ∀ x ∈ (ascendingRun lt b bs).run.1, R a x := by
        intro x hx
        cases hfirst x hx with
        | inl heq => exact heq ▸ hab
        | inr hbx => exact trans_of R hab hbx
      refine ⟨List.pairwise_cons.2 ⟨hrest, hrun⟩, fun x hx => ?_⟩
      cases List.mem_cons.1 hx with
      | inl heq => exact .inl heq
      | inr hx => exact .inr (hrest x hx)

theorem pairwise_openingRun (h : as.Pairwise (Decides R lt)) :
    (openingRun lt as).run.1.Pairwise R := by
  cases as with
  | nil => exact .nil
  | cons a as =>
    cases as with
    | nil => exact List.pairwise_singleton R a
    | cons b bs =>
      obtain ⟨hab, hbs⟩ := List.pairwise_cons.1 h
      have hab := hab b List.mem_cons_self
      rw [openingRun, Id.run_bind]
      cases hlt : (lt b a).run with
      | true =>
        refine pairwise_descendingRun ?_ hbs
        simpa using hab.of_lt hlt
      | false =>
        obtain ⟨hrun, hfirst⟩ := pairwise_ascendingRun hbs
        refine List.pairwise_cons.2 ⟨fun x hx => ?_, hrun⟩
        cases hfirst x hx with
        | inl heq => exact heq ▸ hab.of_not_lt hlt
        | inr hbx => exact trans_of R (hab.of_not_lt hlt) hbx

theorem descendingRun_suffix (lt : α → α → Id Bool) (a : α) (taken bs : List α) :
    (descendingRun lt a taken bs).run.2 <:+ bs := by
  induction bs generalizing a taken with
  | nil => exact List.suffix_refl []
  | cons b bs ih =>
    rw [descendingRun, Id.run_bind]
    split
    · exact (ih b (a :: taken)).trans (List.suffix_cons b bs)
    · exact List.suffix_refl _

theorem openingRun_suffix (lt : α → α → Id Bool) (as : List α) :
    (openingRun lt as).run.2 <:+ as := by
  cases as with
  | nil => exact List.suffix_refl []
  | cons a as =>
    cases as with
    | nil => exact List.nil_suffix
    | cons b bs =>
      rw [openingRun, Id.run_bind]
      split
      · have hsuffix := descendingRun_suffix lt b [a] bs
        exact (hsuffix.trans (List.suffix_cons b bs)).trans (List.suffix_cons a _)
      · exact ⟨a :: (ascendingRun lt b bs).run.1,
          congrArg (a :: ·) (ascendingRun_append lt b bs)⟩

theorem nextRun_suffix (lt : α → α → Id Bool) (least : Nat) (as : List α) :
    (nextRun lt least as).run.2 <:+ as := by
  rw [nextRun, Id.run_bind]
  exact (List.drop_suffix _ _).trans (openingRun_suffix lt as)

theorem exists_perm_of_suffix {run rest : List α} (hrest : rest <:+ as)
    (h : (run ++ rest).Perm as) : ∃ front, front ++ rest = as ∧ run.Perm front := by
  obtain ⟨front, rfl⟩ := hrest
  exact ⟨front, rfl, (List.perm_append_right_iff rest).1 h⟩

theorem pairwise_nextRun (least : Nat) (h : as.Pairwise (Decides R lt)) :
    (nextRun lt least as).run.1.Pairwise R := by
  obtain ⟨front, hfront, hperm⟩ :=
    exists_perm_of_suffix (openingRun_suffix lt as) (openingRun_perm lt as)
  have hopening := pairwise_openingRun h
  rw [nextRun, Id.run_bind]
  generalize (openingRun lt as).run = opened at hopening hfront hperm
  rw [← hfront, List.pairwise_append] at h
  refine pairwise_foldlM_insert hopening (fun a ha x hx => ?_)
    (h.2.1.sublist (List.take_sublist _ _))
  exact h.2.2 a (hperm.subset ha) x (List.mem_of_mem_take hx)

end Order

end CardGrove.Sorting
