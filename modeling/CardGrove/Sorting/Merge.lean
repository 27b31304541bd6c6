import CardGrove.Sorting.Search

/-! Merging of two neighbouring runs, the left one first where neither element precedes. Elements
are compared pairwise until one run has won often enough in a row to be searched in strides. How
often is the patience: it grows when the strides do not pay and wanes while they do, and is kept for
later merges. -/
namespace CardGrove.Sorting
variable {α : Type} {m : Type → Type} [Monad m] (lt : α → α → m Bool)

/-- How a merge proceeds: pair by pair, with the wins in a row of the left and the right run, or in
strides. -/
inductive Pace where
  | pairwise (patience leftWins rightWins : Nat)
  | strides (patience : Nat)

def payingStride : Nat := 7

def Pace.afterStrides (patience left right : Nat) : Pace :=
  if payingStride ≤ left ∨ payingStride ≤ right then .strides (max 1 (patience - 1))
  else .pairwise (patience + 1) 0 0

def Pace.afterLeft (patience leftWins : Nat) : Pace :=
  if patience ≤ leftWins + 1 then .strides patience else .pairwise patience (leftWins + 1) 0

def Pace.afterRight (patience rightWins : Nat) : Pace :=
  if patience ≤ rightWins + 1 then .strides patience else .pairwise patience 0 (rightWins + 1)

/-- Merges from the front, where the last element of the left run is known to be the greatest.
`kept` is the patience so far, which a merge that is over leaves as it is. -/
def mergeUp (kept : Nat) (pace : Pace) (as bs : List α) : m (List α × Nat) := do
  match as, bs with
  | [], bs => return (bs, kept)
  | as, [] => return (as, kept)
  | [a], bs => return (bs ++ [a], kept)
  | a :: as, b :: bs =>
    match pace with
    | .pairwise patience leftWins rightWins =>
      if ← lt b a then
        let (rest, kept) ← mergeUp patience (.afterRight patience rightWins) (a :: as) bs
        return (b :: rest, kept)
      else
        let (rest, kept) ← mergeUp patience (.afterLeft patience leftWins) as (b :: bs)
        return (a :: rest, kept)
    | .strides patience =>
      let k ← boundary (fun x => not <$> lt b x) (a :: as) 0
      match _h : (a :: as).drop k with
      | [] => return (a :: as ++ b :: bs, patience)
      | [last] => return ((a :: as).take k ++ b :: bs ++ [last], patience)
      | next :: others =>
        let l ← boundary (lt · next) bs 0
        let (rest, kept) ← mergeUp patience (.afterStrides patience k l) others (bs.drop l)
        return ((a :: as).take k ++ b :: bs.take l ++ next :: rest, kept)
termination_by as.length + bs.length
decreasing_by
  · simp
  · simp
  · have := congrArg List.length _h
    simp at this ⊢; omega

/-- Merges from the back, where the first element of the right run is known to be the least. Both
runs and the result are in reverse. -/
def mergeDown (kept : Nat) (pace : Pace) (as bs : List α) : m (List α × Nat) := do
  match as, bs with
  | [], bs => return (bs, kept)
  | as, [] => return (as, kept)
  | as, [b] => return (as ++ [b], kept)
  | a :: as, b :: bs =>
    match pace with
    | .pairwise patience leftWins rightWins =>
      if ← lt b a then
        let (rest, kept) ← mergeDown patience (.afterLeft patience leftWins) as (b :: bs)
        return (a :: rest, kept)
      else
        let (rest, kept) ← mergeDown patience (.afterRight patience rightWins) (a :: as) bs
        return (b :: rest, kept)
    | .strides patience =>
      let before ← boundary (fun x => not <$> lt b x) (a :: as).reverse as.length
      let k := as.length + 1 - before
      match _h : (a :: as).drop k with
      | [] => return (a :: as ++ b :: bs, patience)
      | next :: others =>
        match bs with
        | [first] => return ((a :: as).take k ++ b :: next :: others ++ [first], patience)
        | bs =>
          let before ← boundary (lt · next) bs.reverse (bs.length - 1)
          let l := bs.length - before
          match _h' : bs.drop l with
          | [] => return ((a :: as).take k ++ b :: bs ++ next :: others, patience)
          | [first] =>
            return ((a :: as).take k ++ b :: bs.take l ++ next :: others ++ [first], patience)
          | left =>
            let (rest, kept) ← mergeDown patience (.afterStrides patience k l) others left
            return ((a :: as).take k ++ b :: bs.take l ++ next :: rest, kept)
termination_by as.length + bs.length
decreasing_by
  · simp
  · simp
  · have := congrArg List.length _h
    have := congrArg List.length _h'
    simp at *; omega

/-- Merges two neighbouring runs. What begins the left run or ends the right one is in its place
already; the shorter one of what remains says from which end to merge. -/
def merge (as bs : List α) : StateT Nat m (List α) := fun patience => do
  match bs with
  | [] => return (as, patience)
  | b :: _ =>
    let k ← boundary (fun x => not <$> lt b x) as 0
    match (as.drop k).getLast? with
    | none => return (as ++ bs, patience)
    | some a =>
      let l ← boundary (lt · a) bs (bs.length - 1)
      let between (merged : List α) : List α := as.take k ++ merged ++ bs.drop l
      let start := Pace.pairwise patience 0 0
      match bs.take l with
      | [] => return (as ++ bs, patience)
      | b :: rest =>
        if (as.drop k).length ≤ l then
          let (merged, patience) ← mergeUp lt patience start (as.drop k) rest
          return (between (b :: merged), patience)
        else
          let (merged, patience) ←
            mergeDown lt patience start (as.drop k).reverse.tail (b :: rest).reverse
          return (between (a :: merged).reverse, patience)

end CardGrove.Sorting
