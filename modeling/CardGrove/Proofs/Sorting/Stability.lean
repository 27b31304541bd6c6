import CardGrove.Proofs.Sorting.Merging
import CardGrove.Proofs.Sorting.Naturality
import Mathlib

/-! Stability. A comparison that orders the members of a list strictly and weakly decides, of two
elements that tie, for the one that stands first. With their positions in the list the elements are
ordered strictly, and this is the order that the list is sorted into. -/
namespace CardGrove.Sorting

variable {α : Type} {lt : α → α → Bool} {as : List α} {a b c : α}

def tied (lt : α → α → Bool) (a b : α) : Bool := !lt a b && !lt b a

theorem tied_iff : tied lt a b ↔ ¬lt a b ∧ ¬lt b a := by
  simp [tied]

theorem tied_symm (h : tied lt a b) : tied lt b a :=
  tied_iff.2 (tied_iff.1 h).symm

/-- The comparison is a strict weak order on the members of a list: a strict order in which ties
are passed on. -/
structure IsStrictWeakOn (lt : α → α → Bool) (as : List α) : Prop where
  irrefl : ∀ a ∈ as, ¬lt a a
  trans : ∀ a ∈ as, ∀ b ∈ as, ∀ c ∈ as, lt a b → lt b c → lt a c
  tied_trans : ∀ a ∈ as, ∀ b ∈ as, ∀ c ∈ as, tied lt a b → tied lt b c → tied lt a c

instance (lt : α → α → Bool) (as : List α) : Decidable (IsStrictWeakOn lt as) :=
  decidable_of_iff
    ((∀ a ∈ as, ¬lt a a) ∧ (∀ a ∈ as, ∀ b ∈ as, ∀ c ∈ as, lt a b → lt b c → lt a c) ∧
      ∀ a ∈ as, ∀ b ∈ as, ∀ c ∈ as, tied lt a b → tied lt b c → tied lt a c)
    ⟨fun ⟨h, h', h''⟩ => ⟨h, h', h''⟩, fun h => ⟨h.irrefl, h.trans, h.tied_trans⟩⟩

namespace IsStrictWeakOn

variable (h : IsStrictWeakOn lt as)

include h

theorem asymm (ha : a ∈ as) (hb : b ∈ as) (hab : lt a b) : ¬lt b a :=
  fun hba => h.irrefl a ha (h.trans a ha b hb a ha hab hba)

theorem lt_of_lt_of_not_lt (ha : a ∈ as) (hb : b ∈ as) (hc : c ∈ as) (hab : lt a b)
    (hcb : ¬lt c b) : lt a c := by
  by_contra hac
  by_cases hca : lt c a
  · exact hcb (h.trans c hc a ha b hb hca hab)
  · by_cases hbc : lt b c
    · exact hac (h.trans a ha b hb c hc hab hbc)
    · have hties := h.tied_trans a ha c hc b hb (tied_iff.2 ⟨hac, hca⟩) (tied_iff.2 ⟨hcb, hbc⟩)
      exact (tied_iff.1 hties).1 hab

theorem lt_of_not_lt_of_lt (ha : a ∈ as) (hb : b ∈ as) (hc : c ∈ as) (hba : ¬lt b a)
    (hbc : lt b c) : lt a c := by
  by_contra hac
  exact hba (h.lt_of_lt_of_not_lt hb hc ha hbc hac)

theorem not_lt_trans (ha : a ∈ as) (hb : b ∈ as) (hc : c ∈ as) (hab : ¬lt a b)
    (hbc : ¬lt b c) : ¬lt a c :=
  fun hac => hab (h.lt_of_lt_of_not_lt ha hc hb hac hbc)

end IsStrictWeakOn

/-- The order of elements with their positions: ties go by position. -/
def Precedes (lt : α → α → Bool) (as : List α) (p q : α × Nat) : Prop :=
  p.1 ∈ as ∧ q.1 ∈ as ∧ (lt p.1 q.1 ∨ ¬lt q.1 p.1 ∧ p.2 < q.2)

theorem isStrictOrder_precedes (h : IsStrictWeakOn lt as) :
    IsStrictOrder (α × Nat) (Precedes lt as) where
  irrefl p := by
    rintro ⟨hp, -, hlt | ⟨-, hlt⟩⟩
    · exact h.irrefl p.1 hp hlt
    · exact Nat.lt_irrefl p.2 hlt
  trans p q r := by
    rintro ⟨hp, hq, hpq⟩ ⟨-, hr, hqr⟩
    refine ⟨hp, hr, ?_⟩
    cases hpq with
    | inl hpq =>
      cases hqr with
      | inl hqr => exact .inl (h.trans _ hp _ hq _ hr hpq hqr)
      | inr hqr => exact .inl (h.lt_of_lt_of_not_lt hp hq hr hpq hqr.1)
    | inr hpq =>
      cases hqr with
      | inl hqr => exact .inl (h.lt_of_not_lt_of_lt hp hq hr hpq.1 hqr)
      | inr hqr => exact .inr ⟨h.not_lt_trans hr hq hp hqr.1 hpq.1, Nat.lt_trans hpq.2 hqr.2⟩

theorem pairwise_zipIdx (as : List α) : as.zipIdx.Pairwise fun p q => p.2 < q.2 := by
  have hrange : (as.zipIdx.map (·.2)).Pairwise (· < ·) := by
    rw [List.zipIdx_map_snd]
    exact List.pairwise_lt_range'
  exact List.pairwise_map.1 hrange

theorem pairwise_decides (lt : α → α → Bool) (as : List α) :
    as.zipIdx.Pairwise (Decides (Precedes lt as) fun p q => pure (lt p.1 q.1)) := by
  refine (pairwise_zipIdx as).imp_of_mem fun {p q} hp hq hpq => ?_
  have hp := List.fst_mem_of_mem_zipIdx hp
  have hq := List.fst_mem_of_mem_zipIdx hq
  rw [Decides]
  split
  · next hlt => exact ⟨hq, hp, .inl hlt⟩
  · next hlt => exact ⟨hp, hq, .inr ⟨hlt, hpq⟩⟩

def sortTagged (lt : α → α → Bool) (as : List α) : List (α × Nat) :=
  sort (fun p q => lt p.1 q.1) as.zipIdx

theorem map_sortTagged (lt : α → α → Bool) (as : List α) :
    (sortTagged lt as).map (·.1) = sort lt as := by
  rw [sortTagged, ← sort_map, List.zipIdx_map_fst]

theorem pairwise_sortTagged (h : IsStrictWeakOn lt as) :
    (sortTagged lt as).Pairwise (Precedes lt as) :=
  have := isStrictOrder_precedes h
  pairwise_sort (pairwise_decides lt as)

theorem pairwise_not_lt_sort (h : IsStrictWeakOn lt as) :
    (sort lt as).Pairwise fun a b => ¬lt b a := by
  rw [← map_sortTagged, List.pairwise_map]
  refine (pairwise_sortTagged h).imp ?_
  rintro p q ⟨hp, hq, hlt | ⟨hlt, -⟩⟩
  · exact h.asymm hp hq hlt
  · exact hlt

theorem map_fst_filter (test : α → Bool) (ps : List (α × Nat)) :
    (ps.filter (test ·.1)).map (·.1) = (ps.map (·.1)).filter test := List.filter_map.symm

/-- Elements that tie keep their order. -/
theorem filter_tied_sort (h : IsStrictWeakOn lt as) (ha : a ∈ as) :
    (sort lt as).filter (tied lt a) = as.filter (tied lt a) := by
  have hperm : (sortTagged lt as).Perm as.zipIdx := sort_perm _ _
  have hsame : (sortTagged lt as).filter (tied lt a ·.1) = as.zipIdx.filter (tied lt a ·.1) := by
    refine List.Perm.eq_of_pairwise (fun p q _ _ hpq hqp => absurd hpq (Nat.lt_asymm hqp)) ?_
      ((pairwise_zipIdx as).filter _) (hperm.filter _)
    refine ((pairwise_sortTagged h).filter _).imp_of_mem ?_
    rintro p q hp hq ⟨hp', hq', hlt | ⟨-, hlt⟩⟩
    · have hpa := tied_symm (List.mem_filter.1 hp).2
      have hpq := h.tied_trans _ hp' a ha _ hq' hpa (List.mem_filter.1 hq).2
      exact absurd hlt (tied_iff.1 hpq).1
    · exact hlt
  calc (sort lt as).filter (tied lt a)
      = ((sortTagged lt as).filter (tied lt a ·.1)).map (·.1) := by
        rw [map_fst_filter, map_sortTagged]
    _ = (as.zipIdx.filter (tied lt a ·.1)).map (·.1) := by rw [hsame]
    _ = as.filter (tied lt a) := by rw [map_fst_filter, List.zipIdx_map_fst]

theorem sort_filter (h : IsStrictWeakOn lt as) (test : α → Bool) :
    sort lt (as.filter test) = (sort lt as).filter test := by
  have := isStrictOrder_precedes h
  -- both lists keep the positions in the whole list, so one strict order tells their elements apart
  have htagged : (sort (fun p q => lt p.1 q.1) (as.zipIdx.filter (test ·.1))) =
      (sortTagged lt as).filter (test ·.1) := by
    refine List.Perm.eq_of_pairwise (fun p q _ _ hpq hqp => absurd hpq (asymm hqp)) ?_
      ((pairwise_sortTagged h).filter _) ?_
    · exact pairwise_sort ((pairwise_decides lt as).filter _)
    · exact (sort_perm _ _).trans ((sort_perm _ as.zipIdx).filter _).symm
  calc sort lt (as.filter test)
      = sort lt ((as.zipIdx.filter (test ·.1)).map (·.1)) := by
        rw [map_fst_filter, List.zipIdx_map_fst]
    _ = (sort (fun p q => lt p.1 q.1) (as.zipIdx.filter (test ·.1))).map (·.1) := by rw [sort_map]
    _ = ((sortTagged lt as).filter (test ·.1)).map (·.1) := by rw [htagged]
    _ = (sort lt as).filter test := by rw [map_fst_filter, map_sortTagged]

section Rank

variable {β : Type} [LinearOrder β] {rank : α → β}

def ComparesBy (rank : α → β) (lt : α → α → Bool) (as : List α) : Prop :=
  ∀ a ∈ as, ∀ b ∈ as, lt a b ↔ rank a < rank b

variable (h : ComparesBy rank lt as)

include h

theorem ComparesBy.tied_iff (ha : a ∈ as) (hb : b ∈ as) : tied lt a b ↔ rank a = rank b := by
  rw [Sorting.tied_iff, h a ha b hb, h b hb a ha, not_lt, not_lt, le_antisymm_iff, and_comm]

theorem ComparesBy.isStrictWeakOn : IsStrictWeakOn lt as where
  irrefl a ha := by
    rw [h a ha a ha]
    exact lt_irrefl _
  trans a ha b hb c hc := by
    rw [h a ha b hb, h b hb c hc, h a ha c hc]
    exact lt_trans
  tied_trans a ha b hb c hc := by
    rw [h.tied_iff ha hb, h.tied_iff hb hc, h.tied_iff ha hc]
    exact Eq.trans

end Rank

end CardGrove.Sorting
