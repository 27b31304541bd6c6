import CardGrove.Proofs.Forest.Traversal
import CardGrove.Proofs.Game.Doubles
import CardGrove.Proofs.Sorting.Neighbours
import CardGrove.Proofs.Sorting.Stability

/-! Reading order. Anchors on a staircase may share rows pairwise and not all together, so a tree
may be shown before one that reads before it; but up to 63 trees no two neighbours are in the wrong
order. Where the comparison is a strict weak order after all, the trees are sorted, and those that
tie stay in build order. -/
namespace CardGrove.Tree

open Sorting (IsStrictWeakOn tied)

theorem readingOrderOverflows_of_double {ts : List Tree}
    (h : ∀ t ∈ ts, t.anchor.box.AllDouble) : readingOrderOverflows ts = false := by
  cases ts with
  | nil => decide +kernel
  | cons t ts => exact readingOrderOverflows_eq_false h (List.cons_ne_nil t ts)

/-- The reading order of any trees is a permutation without inverted neighbours, and the stable sort
where the comparison is a strict weak order. -/
theorem readingOrder_sorts (ts : List Tree) :
    let before := readsBefore (rowTolerance ts)
    ((∀ t ∈ ts, t.anchor.box.AllDouble) → readingOrderOverflows ts = false) ∧
    (readingOrder ts).Perm ts ∧
    (ts.length < 64 → (readingOrder ts).IsChain fun t u => before t u ∨ ¬before u t) ∧
    (IsStrictWeakOn before ts →
      (readingOrder ts).Pairwise (fun t u => ¬before u t) ∧
      ∀ t ∈ ts, (readingOrder ts).filter (tied before t) = ts.filter (tied before t)) := by
  intro before
  refine ⟨readingOrderOverflows_of_double, readingOrder_perm ts, fun hshort => ?_, fun hweak => ?_⟩
  · exact Sorting.isChain_sort before hshort
  · exact ⟨Sorting.pairwise_not_lt_sort hweak, fun t ht => Sorting.filter_tied_sort hweak ht⟩

def bare (n : Nat) (x y x' y' : Float) : Tree :=
  { anchor := ⟨n, .ofCorners (.double x) (.double y) (.double x') (.double y'), "Oak:a", "Oak", "a",
      none⟩ }

def staircase : List Tree :=
  [bare 0 20.0 0.0 30.0 10.0, bare 1 10.0 4.0 20.0 14.0, bare 2 0.0 8.0 10.0 18.0]

def twins : List Tree :=
  [bare 0 20.0 0.0 30.0 10.0, bare 1 20.0 0.0 30.0 10.0, bare 2 0.0 0.0 10.0 10.0]

theorem readingOrder_sorts_staircase :
    (∀ t ∈ staircase, t.anchor.box.AllDouble) ∧ staircase.length < 64 ∧
    ¬IsStrictWeakOn (readsBefore (rowTolerance staircase)) staircase ∧
    readingOrderOverflows staircase = false ∧
    ((readingOrder staircase).IsChain fun t u =>
      readsBefore (rowTolerance staircase) t u ∨ ¬readsBefore (rowTolerance staircase) u t) ∧
    (readingOrder staircase).map (·.anchor.index) = [2, 1, 0] ∧
    IsStrictWeakOn (readsBefore (rowTolerance twins)) twins ∧
    (readingOrder twins).Pairwise (fun t u => ¬readsBefore (rowTolerance twins) u t) ∧
    (readingOrder twins).map (·.anchor.index) = [2, 0, 1] := by
  have hdouble : ∀ t ∈ staircase, t.anchor.box.AllDouble := by decide +kernel
  have hshort : staircase.length < 64 := by decide
  have hweak : IsStrictWeakOn (readsBefore (rowTolerance twins)) twins := by decide +kernel
  obtain ⟨hrun, -, hchain, -⟩ := readingOrder_sorts staircase
  obtain ⟨-, -, -, hsorted⟩ := readingOrder_sorts twins
  exact ⟨hdouble, hshort, by decide +kernel, hrun hdouble, hchain hshort, by decide +kernel, hweak,
    (hsorted hweak).1, by decide +kernel⟩

end CardGrove.Tree
