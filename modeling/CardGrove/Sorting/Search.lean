/-! Searches for the boundary in a list between the elements that pass a test and those that do not.
The test may have effects, such as failing, so it matters which elements are tested. -/
namespace CardGrove.Sorting
variable {α : Type} {m : Type → Type} [Monad m]

def testAt (test : α → m Bool) (as : List α) (n : Nat) : m Bool :=
  match as[n]? with
  | some a => test a
  | none => return false

/-- Binary search between two positions: right of an element that passes, left of any other. -/
def bisect (test : α → m Bool) (as : List α) (lo hi : Nat) : m Nat := do
  if _h : lo < hi then
    let mid := lo + (hi - lo) / 2
    if ← testAt test as mid then bisect test as (mid + 1) hi else bisect test as lo mid
  else return lo
termination_by hi - lo

/-- The last distance probed with success and the next one, up to a limit: the distances are 1, 3,
7 and so on. -/
def stride (probe : Nat → m Bool) (limit last next : Nat) : m (Nat × Nat) := do
  if _h : next < limit then
    if ← probe next then stride probe limit next (2 * next + 1) else return (last, next)
  else return (last, limit)
termination_by limit - next

def boundary (test : α → m Bool) (as : List α) (start : Nat) : m Nat := do
  if ← testAt test as start then
    let (last, next) ← stride (fun n => testAt test as (start + n)) (as.length - start) 0 1
    bisect test as (start + last + 1) (start + next)
  else
    let (last, next) ← stride (fun n => not <$> testAt test as (start - n)) (start + 1) 0 1
    bisect test as (start + 1 - next) (start - last)

end CardGrove.Sorting
