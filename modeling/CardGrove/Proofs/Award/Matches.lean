import CardGrove.Award
import Mathlib.Data.List.Pairwise

/-! More matches. A fixed amount is due from some number of matches on, an amount for every match
grows with them, and a table is read at a place that moves on with them and stays within it. So more
matches never pay less, unless what they pay is negative or the entries of the table fall. -/
namespace CardGrove

namespace Award

def tablePlace (amounts : List Int) (n : Int) : Nat := (min ((amounts.length : Int) - 1) (n - 1)).toNat

section Table

variable {amounts : List Int} {m n : Int}

theorem tablePlace_lt (h : amounts ≠ []) (n : Int) : tablePlace amounts n < amounts.length := by
  have hlength := List.length_pos_iff.2 h
  rw [tablePlace]
  omega

theorem tablePlace_mono (amounts : List Int) (h : m ≤ n) :
    tablePlace amounts m ≤ tablePlace amounts n := by
  rw [tablePlace, tablePlace]
  omega

theorem tablePlace_of_le_one (amounts : List Int) (h : n ≤ 1) : tablePlace amounts n = 0 := by
  rw [tablePlace]
  omega

theorem tablePlace_of_length_le (h : amounts.length ≤ n) :
    tablePlace amounts n = amounts.length - 1 := by
  rw [tablePlace]
  omega

theorem tablePlace_succ {i : Nat} (hi : i < amounts.length) : tablePlace amounts (i + 1) = i := by
  rw [tablePlace]
  omega

theorem tableEntry_eq (amounts : List Int) (n : Int) :
    tableEntry amounts n = amounts[tablePlace amounts n]?.getD 0 := rfl

theorem tableEntry_eq_getElem (h : tablePlace amounts n < amounts.length) :
    tableEntry amounts n = amounts[tablePlace amounts n] := by
  rw [tableEntry_eq, List.getElem?_eq_getElem h, Option.getD_some]

theorem tableEntry_mem (h : amounts ≠ []) (n : Int) : tableEntry amounts n ∈ amounts := by
  rw [tableEntry_eq_getElem (tablePlace_lt h n)]
  exact List.getElem_mem _

theorem tableEntry_of_le_one (amounts : List Int) (h : n ≤ 1) :
    tableEntry amounts n = amounts.head?.getD 0 := by
  rw [tableEntry_eq, tablePlace_of_le_one amounts h, List.head?_eq_getElem?]

theorem tableEntry_of_length_le (h : amounts.length ≤ n) :
    tableEntry amounts n = amounts.getLast?.getD 0 := by
  rw [tableEntry_eq, tablePlace_of_length_le h, List.getLast?_eq_getElem?]

theorem tableEntry_succ {i : Nat} (hi : i < amounts.length) :
    tableEntry amounts (i + 1) = amounts[i] := by
  rw [tableEntry_eq, tablePlace_succ hi, List.getElem?_eq_getElem hi, Option.getD_some]

theorem tableEntry_mono (h : amounts.Pairwise (· ≤ ·)) (hmn : m ≤ n) :
    tableEntry amounts m ≤ tableEntry amounts n := by
  by_cases hne : amounts = []
  · subst hne
    exact Int.le_refl 0
  · have hm := tablePlace_lt hne m
    have hn := tablePlace_lt hne n
    rw [tableEntry_eq_getElem hm, tableEntry_eq_getElem hn]
    exact h.rel_get_of_le (a := ⟨_, hm⟩) (b := ⟨_, hn⟩) (tablePlace_mono amounts hmn)

theorem pairwise_of_tableEntry_mono
    (h : ∀ m n : Int, 0 ≤ m → m ≤ n → tableEntry amounts m ≤ tableEntry amounts n) :
    amounts.Pairwise (· ≤ ·) := by
  refine List.pairwise_iff_getElem.2 fun i j hi hj hij => ?_
  rw [← tableEntry_succ hi, ← tableEntry_succ hj]
  exact h _ _ (by omega) (by omega)

end Table

theorem isMet_iff {least : Option Int} {n : Int} : isMet least n ↔ least.getD 1 ≤ n := by
  cases least with
  | none =>
    simp only [isMet, Option.getD_none, decide_eq_true_eq]
    omega
  | some m => simp only [isMet, Option.getD_some, decide_eq_true_eq]

theorem points_fixed (amount : Int) (least : Option Int) (c : Condition) (n : Int) :
    (fixed amount least (some c) (some n)).points = if least.getD 1 ≤ n then amount else 0 := by
  simp only [fixed, isMet_iff]
  split <;> rfl

theorem points_multiplication (amount : Int) (least : Option Int) (c : Condition) (n : Int) :
    (multiplication amount least (some c) (some n)).points =
      amount * if least.any (n < ·) then 0 else n := rfl

end Award

namespace Rule

/-- More matches are never a loss: what is paid for them is not negative, and the entries of a table
do not fall. A fixed amount may also be negative if it is due without a match. -/
def isRewarding (r : Rule) : Bool :=
  match r.payout with
  | .fixed amount => 0 ≤ amount || r.min.getD 1 ≤ 0
  | .multiplication amount => 0 ≤ amount
  | .table amounts => amounts.Pairwise (· ≤ ·)

def IsMonotone (r : Rule) : Prop :=
  ∀ m n : Int, 0 ≤ m → m ≤ n → (r.award (some m)).points ≤ (r.award (some n)).points

variable (least : Option Int) (c : Condition)

theorem isMonotone_fixed_iff (amount : Int) :
    IsMonotone ⟨.fixed amount, least, some c⟩ ↔ 0 ≤ amount ∨ least.getD 1 ≤ 0 := by
  simp only [IsMonotone, award, Award.points_fixed]
  constructor
  · intro h
    by_cases hdue : least.getD 1 ≤ 0
    · exact .inr hdue
    · have hpaid := h 0 (least.getD 1) (Int.le_refl 0) (by omega)
      rw [if_neg hdue, if_pos (Int.le_refl _)] at hpaid
      exact .inl hpaid
  · intro h m n hm hmn
    split <;> split <;> omega

theorem isMonotone_multiplication_iff (amount : Int) :
    IsMonotone ⟨.multiplication amount, least, some c⟩ ↔ 0 ≤ amount := by
  simp only [IsMonotone, award, Award.points_multiplication]
  constructor
  · intro h
    -- the number of matches is positive and not below the least one
    have hcounted : least.any (max 1 (least.getD 1) < ·) = false := by
      cases least with
      | none => rfl
      | some m => exact decide_eq_false (Int.not_lt.2 (Int.le_max_right 1 m))
    have hpaid := h 0 (max 1 (least.getD 1)) (Int.le_refl 0) (by omega)
    rw [hcounted, ite_self, Int.mul_zero, if_neg Bool.false_ne_true] at hpaid
    exact Int.nonneg_of_mul_nonneg_left hpaid (by omega)
  · intro h m n hm hmn
    refine Int.mul_le_mul_of_nonneg_left ?_ h
    cases least with
    | none => exact hmn
    | some m' =>
      simp only [Option.any_some, decide_eq_true_eq]
      split <;> split <;> omega

theorem isMonotone_table_iff (amounts : List Int) :
    IsMonotone ⟨.table amounts, least, some c⟩ ↔ amounts.Pairwise (· ≤ ·) :=
  ⟨Award.pairwise_of_tableEntry_mono, fun h _ _ _ => Award.tableEntry_mono h⟩

theorem isMonotone_iff {r : Rule} {c : Condition} (h : r.condition = some c) :
    r.IsMonotone ↔ r.isRewarding := by
  obtain ⟨payout, least, condition⟩ := r
  obtain rfl : condition = some c := h
  cases payout with
  | fixed amount => simpa [isRewarding] using isMonotone_fixed_iff least c amount
  | multiplication amount => simpa [isRewarding] using isMonotone_multiplication_iff least c amount
  | table amounts => simpa [isRewarding] using isMonotone_table_iff least c amounts

/-- A rule that counts matches pays no less for more of them exactly if it is rewarding, as it is if
its amount is not negative or the entries of its table do not fall. A table that has entries always
pays one of them, the first one up to one match and the last one from its length on. -/
theorem award_monotone {r : Rule} {c : Condition} (hcondition : r.condition = some c) :
    ((∀ m n : Int, 0 ≤ m → m ≤ n → (r.award (some m)).points ≤ (r.award (some n)).points) ↔
      r.isRewarding) ∧
    ∀ amounts, r.payout = .table amounts → ∀ hne : amounts ≠ [], ∀ n : Int,
      (r.award (some n)).points ∈ amounts ∧
      (n ≤ 1 → (r.award (some n)).points = amounts.head hne) ∧
      (amounts.length ≤ n → (r.award (some n)).points = amounts.getLast hne) := by
  refine ⟨isMonotone_iff hcondition, fun amounts hpayout hne n => ?_⟩
  have hpoints : (r.award (some n)).points = Award.tableEntry amounts n := by
    rw [award, hpayout, hcondition]
    rfl
  rw [hpoints]
  refine ⟨Award.tableEntry_mem hne n, fun hn => ?_, fun hn => ?_⟩
  · rw [Award.tableEntry_of_le_one amounts hn, List.head?_eq_some_head hne, Option.getD_some]
  · rw [Award.tableEntry_of_length_le hn, List.getLast?_eq_some_getLast hne, Option.getD_some]

def mossRule : Rule := { payout := .table [-3, 0, 0, 7], condition := some { names := some ["moss"] } }

theorem award_monotone_moss :
    mossRule.condition = some { names := some ["moss"] } ∧ mossRule.isRewarding ∧
    (mossRule.award (some 0)).points = -3 ∧
    (mossRule.award (some 0)).points ≤ (mossRule.award (some 2)).points ∧
    (mossRule.award (some 5)).points = 7 := by
  have hne : ([-3, 0, 0, 7] : List Int) ≠ [] := by decide
  obtain ⟨hmono, htable⟩ := award_monotone (r := mossRule) rfl
  have hrewarding : mossRule.isRewarding := by decide
  exact ⟨rfl, hrewarding, (htable _ rfl hne 0).2.1 (by decide),
    hmono.2 hrewarding 0 2 (by decide) (by decide), (htable _ rfl hne 5).2.2 (by decide)⟩

end Rule
end CardGrove
