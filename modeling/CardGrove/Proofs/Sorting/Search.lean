import CardGrove.Sorting.Search
import Mathlib.Data.List.Pairwise

/-! What the searches find. Whatever the test answers, the binary search ends between an element
that passes and one that does not. Where the elements that pass stand before all others, both
searches part the list into the two kinds. -/
namespace CardGrove.Sorting

variable {α : Type} {test : α → Id Bool} {as : List α}

theorem run_testAt (test : α → Id Bool) (as : List α) (n : Nat) :
    (testAt test as n).run = as[n]?.any fun a => (test a).run := by
  rw [testAt]
  cases as[n]? with
  | none => rfl
  | some a => rfl

/-- The position found is between an element that passes and one that does not, or at the end of
the part that was searched. -/
theorem bisect_between (test : α → Id Bool) (as : List α) {lo hi : Nat} (h : lo ≤ hi) :
    lo ≤ (bisect test as lo hi).run ∧ (bisect test as lo hi).run ≤ hi ∧
    (lo < (bisect test as lo hi).run →
      (testAt test as ((bisect test as lo hi).run - 1)).run = true) ∧
    ((bisect test as lo hi).run < hi →
      (testAt test as (bisect test as lo hi).run).run = false) := by
  induction lo, hi using bisect.induct with
  | case1 lo hi hlt mid ih ih' =>
    have hstep : (bisect test as lo hi).run = if (testAt test as mid).run then
        (bisect test as (mid + 1) hi).run else (bisect test as lo mid).run := by
      rw [bisect, dif_pos hlt, Id.run_bind]
      exact apply_ite Id.run _ _ _
    cases hmid : (testAt test as mid).run with
    | true =>
      rw [hmid, if_pos rfl] at hstep
      rw [hstep]
      obtain ⟨hlo, hhi, hpass, hfail⟩ := ih (by omega)
      refine ⟨by omega, hhi, fun _ => ?_, hfail⟩
      by_cases heq : (bisect test as (mid + 1) hi).run = mid + 1
      · rw [heq]
        exact hmid
      · exact hpass (by omega)
    | false =>
      rw [hmid, if_neg Bool.false_ne_true] at hstep
      rw [hstep]
      obtain ⟨hlo, hhi, hpass, hfail⟩ := ih' (by omega)
      refine ⟨hlo, by omega, hpass, fun _ => ?_⟩
      by_cases heq : (bisect test as lo mid).run = mid
      · rw [heq]
        exact hmid
      · exact hfail (by omega)
  | case2 lo hi hlt =>
    rw [bisect, dif_neg hlt]
    exact ⟨Nat.le_refl lo, h, fun hlo => absurd hlo (Nat.lt_irrefl lo), fun hhi => absurd hhi hlt⟩

def Parts (test : α → Id Bool) (as : List α) (k : Nat) : Prop :=
  ∀ n, (testAt test as n).run = decide (n < k)

theorem Parts.le_length {k : Nat} (h : Parts test as k) : k ≤ as.length := by
  by_contra hlt
  have hend := h as.length
  rw [run_testAt, List.getElem?_eq_none (Nat.le_refl _)] at hend
  have hfalse := of_decide_eq_false hend.symm
  omega

theorem Parts.bisect_eq {k lo hi : Nat} (h : Parts test as k) (hlo : lo ≤ k) (hhi : k ≤ hi) :
    (bisect test as lo hi).run = k := by
  obtain ⟨hle, hle', hpass, hfail⟩ := bisect_between test as (Nat.le_trans hlo hhi)
  rw [h, decide_eq_true_eq] at hpass
  rw [h, decide_eq_false_iff_not] at hfail
  omega

theorem stride_between (probe : Nat → Id Bool) (limit last next : Nat) :
    ((stride probe limit last next).run.1 = last ∨
      (probe (stride probe limit last next).run.1).run = true) ∧
    ((stride probe limit last next).run.2 = limit ∨
      (probe (stride probe limit last next).run.2).run = false) := by
  induction last, next using stride.induct limit with
  | case1 last next hlt ih =>
    rw [stride, dif_pos hlt, Id.run_bind]
    cases hprobe : (probe next).run with
    | true =>
      rw [if_pos rfl]
      obtain ⟨hlast, hnext⟩ := ih
      refine ⟨.inr ?_, hnext⟩
      cases hlast with
      | inl heq =>
        rw [heq]
        exact hprobe
      | inr hpass => exact hpass
    | false => exact ⟨.inl rfl, .inr hprobe⟩
  | case2 last next hlt =>
    rw [stride, dif_neg hlt]
    exact ⟨.inl rfl, .inl rfl⟩

theorem Parts.boundary_eq {k start : Nat} (h : Parts test as k) (hstart : start ≤ as.length) :
    (boundary test as start).run = k := by
  have hk := h.le_length
  rw [boundary, Id.run_bind, h start]
  by_cases hlt : start < k
  · let probe (n : Nat) : Id Bool := testAt test as (start + n)
    have hprobe (n : Nat) : (probe n).run = decide (start + n < k) := h (start + n)
    have hfound := stride_between probe (as.length - start) 0 1
    rw [decide_eq_true hlt, if_pos rfl, Id.run_bind]
    change (bisect test as (start + (stride probe (as.length - start) 0 1).run.1 + 1)
      (start + (stride probe (as.length - start) 0 1).run.2)).run = k
    generalize (stride probe (as.length - start) 0 1).run = found at hfound
    rw [hprobe, hprobe, decide_eq_true_eq, decide_eq_false_iff_not] at hfound
    exact h.bisect_eq (by omega) (by omega)
  · let probe (n : Nat) : Id Bool := not <$> testAt test as (start - n)
    have hprobe (n : Nat) : (probe n).run = !decide (start - n < k) :=
      congrArg not (h (start - n))
    have hfound := stride_between probe (start + 1) 0 1
    rw [decide_eq_false hlt, if_neg Bool.false_ne_true, Id.run_bind]
    change (bisect test as (start + 1 - (stride probe (start + 1) 0 1).run.2)
      (start - (stride probe (start + 1) 0 1).run.1)).run = k
    generalize (stride probe (start + 1) 0 1).run = found at hfound
    rw [hprobe, hprobe, Bool.not_eq_true', Bool.not_eq_false', decide_eq_true_eq,
      decide_eq_false_iff_not] at hfound
    exact h.bisect_eq (by omega) (by omega)

theorem Parts.forall_take {k : Nat} (h : Parts test as k) :
    ∀ x ∈ as.take k, (test x).run = true := by
  intro x hx
  obtain ⟨n, hn, rfl⟩ := List.mem_take_iff_getElem.1 hx
  have hpass := h n
  rw [run_testAt, List.getElem?_eq_getElem (by omega)] at hpass
  exact hpass.trans (decide_eq_true (by omega))

theorem Parts.forall_drop {k : Nat} (h : Parts test as k) :
    ∀ x ∈ as.drop k, (test x).run = false := by
  intro x hx
  obtain ⟨n, hn, rfl⟩ := List.mem_drop_iff_getElem.1 hx
  have hfail := h (k + n)
  rw [run_testAt, List.getElem?_eq_getElem (by omega)] at hfail
  exact hfail.trans (decide_eq_false (by omega))

theorem exists_parts
    (h : as.Pairwise fun x y => (test y).run = true → (test x).run = true) :
    ∃ k, Parts test as k := by
  induction as with
  | nil => exact ⟨0, fun n => by simp [run_testAt]⟩
  | cons a as ih =>
    obtain ⟨hhead, htail⟩ := List.pairwise_cons.1 h
    cases ha : (test a).run with
    | true =>
      obtain ⟨k, hk⟩ := ih htail
      refine ⟨k + 1, fun n => ?_⟩
      cases n with
      | zero => simpa [run_testAt] using ha
      | succ n => simpa [run_testAt] using hk n
    | false =>
      refine ⟨0, fun n => ?_⟩
      rw [run_testAt, decide_eq_false n.not_lt_zero]
      cases hn : (a :: as)[n]? with
      | none => rfl
      | some x =>
        cases List.mem_cons.1 (List.mem_of_getElem? hn) with
        | inl heq => rwa [Option.any_some, heq]
        | inr hx =>
          rw [Option.any_some, ← Bool.not_eq_true]
          exact fun hpass => Bool.false_ne_true (ha.symm.trans (hhead x hx hpass))

theorem forall_bisect (h : as.Pairwise fun x y => (test y).run = true → (test x).run = true) :
    (∀ x ∈ as.take (bisect test as 0 as.length).run, (test x).run = true) ∧
    ∀ x ∈ as.drop (bisect test as 0 as.length).run, (test x).run = false := by
  obtain ⟨k, hk⟩ := exists_parts h
  rw [hk.bisect_eq (Nat.zero_le k) hk.le_length]
  exact ⟨hk.forall_take, hk.forall_drop⟩

theorem forall_boundary (h : as.Pairwise fun x y => (test y).run = true → (test x).run = true)
    {start : Nat} (hstart : start ≤ as.length) :
    (∀ x ∈ as.take (boundary test as start).run, (test x).run = true) ∧
    ∀ x ∈ as.drop (boundary test as start).run, (test x).run = false := by
  obtain ⟨k, hk⟩ := exists_parts h
  rw [hk.boundary_eq hstart]
  exact ⟨hk.forall_take, hk.forall_drop⟩

end CardGrove.Sorting
