import CardGrove.Layout

/-! Contests between players. A condition flagged `most` pays off only for the players who hold the
greatest count of the cards it names, so every layout of a game must exist before the first
contest is decided. Decided contests are kept by their title. -/
namespace CardGrove

namespace Instance

def distinctIds (cards : List Instance) : List Text :=
  (distinctBy (·.id) (cards.filter (!·.isJoker))).map (·.id)

def tally (unique : Bool) (cards : List Instance) : Nat :=
  if unique then (distinctIds cards).length else cards.length

end Instance

/-- What players are compared by: names and tags in order, whether distinct ids are counted, and
the attachment symbol if only cards of one symbol count. -/
structure Contest where
  names : List Text
  tags : List Text
  unique : Bool
  symbol : Option Text
  deriving DecidableEq, Repr

structure Standing where
  greatest : Nat
  winners : List Nat
  deriving DecidableEq, Repr

structure Standings where
  entries : List (Text × Standing) := []
  deriving DecidableEq, Repr

namespace Contest

def sorted (texts : List Text) : List Text := texts.mergeSort (· ≤ ·)

def ofCondition (c : Instance) (condition : Condition) : Contest :=
  ⟨sorted condition.givenNames, sorted condition.givenTags, condition.unique,
    if condition.sameSymbol then some c.symbol else none⟩

def title (contest : Contest) : Text :=
  Text.joined "," contest.names ++ "|" ++ Text.joined "," contest.tags ++ "|" ++
    (if contest.unique then "true" else "false") ++ "|" ++ contest.symbol.getD []

/-- A card counts in a contest that asks for a type if it passes every filter that is set; a joker
counts only as itself. -/
def admits (contest : Contest) (kind : Option Text) (c : Instance) : Bool :=
  contest.symbol.all (· = c.symbol) &&
    (contest.names.isEmpty || contest.names.contains c.id) &&
    (contest.tags.isEmpty || contest.tags.any c.tags.contains) &&
    kind.all (c.kind = some ·)

def count (contest : Contest) (kind : Option Text) (cards : List Instance) : Nat :=
  Instance.tally contest.unique (cards.filter (contest.admits kind))

/-- The outcome among layouts: everyone at a positive greatest count wins. -/
def outcome (layouts : List Layout) (contest : Contest) (kind : Option Text) : Standing :=
  let greatest := (layouts.map fun l => contest.count kind l.instances).foldl max 0
  ⟨greatest, (layouts.filter fun l =>
    0 < greatest && contest.count kind l.instances == greatest).map (·.player)⟩

/-- The outcome kept under the contest's title, decided now if there is none yet. -/
def standing (layouts : List Layout) (contest : Contest) (kind : Option Text) :
    StateM Standings Standing := fun standings =>
  match standings.entries.lookup contest.title with
  | some s => (s, standings)
  | none =>
    let s := contest.outcome layouts kind
    (s, ⟨(contest.title, s) :: standings.entries⟩)

def isWinner (layouts : List Layout) (player : Nat) (c : Instance) (condition : Condition) :
    StateM Standings Bool := do
  if condition.most then
    let s ← (ofCondition c condition).standing layouts condition.kind
    return s.winners.contains player
  else return true

end Contest
end CardGrove
