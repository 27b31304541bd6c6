import CardGrove.Sorting.Search

/-! Runs: the stretches of a list that are in order already, and short ones made longer by binary
insertion. -/
namespace CardGrove.Sorting
variable {α : Type} {m : Type → Type} [Monad m] (lt : α → α → m Bool)

/-- The longest strictly descending run that opens a list whose last taken element is `a`,
reversed onto `taken`, and the rest of the list. -/
def descendingRun (a : α) (taken : List α) : List α → m (List α × List α)
  | [] => return (a :: taken, [])
  | b :: bs => do
    if ← lt b a then descendingRun b (a :: taken) bs else return (a :: taken, b :: bs)

def ascendingRun (a : α) : List α → m (List α × List α)
  | [] => return ([a], [])
  | b :: bs => do
    if ← lt b a then return ([a], b :: bs)
    else
      let (run, rest) ← ascendingRun b bs
      return (a :: run, rest)

def openingRun : List α → m (List α × List α)
  | [] => return ([], [])
  | [a] => return ([a], [])
  | a :: b :: bs => do
    if ← lt b a then descendingRun lt b [a] bs
    else
      let (run, rest) ← ascendingRun lt b bs
      return (a :: run, rest)

def insert (sorted : List α) (x : α) : m (List α) := do
  let n ← bisect (fun a => not <$> lt x a) sorted 0 sorted.length
  return sorted.insertIdx n x

/-- The least length of a run in a list of some length: the length itself below 64, else its six
leading binary digits, rounded up. -/
def leastRun (length : Nat) : Nat :=
  let unit := Nat.pow 2 (length.log2 - 5)
  (length + unit - 1) / unit

/-- The opening run of a list, made longer by insertion if it is short, and the rest. -/
def nextRun (least : Nat) (as : List α) : m (List α × List α) := do
  let (run, rest) ← openingRun lt as
  let missing := least - run.length
  return (← (rest.take missing).foldlM (insert lt) run, rest.drop missing)

def runs (least : Nat) (as : List α) : m (List (List α)) := do
  let (run, rest) ← nextRun lt least as
  if _h : rest.length < as.length ∧ rest ≠ [] then return run :: (← runs least rest)
  else return [run]
termination_by as.length

end CardGrove.Sorting
