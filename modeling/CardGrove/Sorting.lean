import CardGrove.Sorting.Merge
import CardGrove.Sorting.Run

/-! Sorting by a comparison that need not be transitive. The result then depends on which elements
are compared, so the method is fixed: the list is cut into runs, and neighbouring runs are merged.
Each boundary between runs has a power, the depth at which it would stand in a balanced tree over
the list; a boundary is merged away before one of lesser power is met. A list of fewer than 64
elements is one run. On a strict weak order this is the stable sort. -/
namespace CardGrove.Sorting
variable {α : Type} {m : Type → Type} [Monad m]

/-- The first binary digit at which the fractions `a / n` and `(a + gap) / n` differ, if both are
below 2. -/
def firstDifference (n a gap : Nat) : Nat :=
  if _h : 0 < gap ∧ gap < n then
    if n ≤ a then 1 + firstDifference n (2 * (a - n)) (2 * gap)
    else if n ≤ a + gap then 1
    else 1 + firstDifference n (2 * a) (2 * gap)
  else 1
termination_by n - gap

/-- The power of the boundary between a run that begins at `start` and the next one: the depth at
which the middles of the two are told apart. -/
def power (n start left right : Nat) : Nat := firstDifference n (2 * start + left) (left + right)

structure Waiting (α : Type) where
  run : List α
  power : Nat

def firstPatience : Nat := 7

section
variable (lt : α → α → m Bool)

def absorb (power : Nat) : List (Waiting α) → List α → StateT Nat m (List (Waiting α) × List α)
  | [], run => return ([], run)
  | w :: waiting, run => do
    if power < w.power then absorb power waiting (← merge lt w.run run)
    else return (w :: waiting, run)

/-- Merges the runs that are left, the last one first: two neighbours at a time, and of three the
two where the outer run is shorter. -/
def mergeRest : List (List α) → StateT Nat m (List α)
  | [] => return []
  | [run] => return run
  | [c, b] => merge lt b c
  | c :: b :: a :: before => do
    if a.length < c.length then mergeRest (c :: (← merge lt a b) :: before)
    else mergeRest ((← merge lt b c) :: a :: before)
termination_by runs => runs.length

def mergeRuns (n stop : Nat) : List (Waiting α) → List α → List (List α) → StateT Nat m (List α)
  | waiting, run, [] => mergeRest lt (run :: waiting.map (·.run))
  | waiting, run, next :: runs => do
    let power := power n (stop - run.length) run.length next.length
    let (waiting, run) ← absorb lt power waiting run
    mergeRuns n (stop + next.length) (⟨run, power⟩ :: waiting) next runs

def sortM (as : List α) : m (List α) := do
  match ← runs lt (leastRun as.length) as with
  | [] => return []
  | run :: runs => return (← (mergeRuns lt as.length run.length [] run runs).run firstPatience).1

end

def sort (lt : α → α → Bool) (as : List α) : List α :=
  Id.run (sortM (fun a b => pure (lt a b)) as)

end CardGrove.Sorting
