import CardGrove.Scoring

/-! A game: every player's layout is built first, then all are scored against the same contests.
A player whose labels cannot be read, or whose forest cannot be built, is scored as having no cards.
At the end all totals are spelled. -/
namespace CardGrove

/-- A player and the cards sighted in front of them. Names are of any type and passed through. -/
structure Player (ν : Type) where
  name : ν
  cards : List Sighting := []

namespace Player
variable {ν : Type}

def detections? (p : Player ν) : Option (List Detection) := p.cards.mapM Sighting.detection?

def forest? (catalog : Catalog) (p : Player ν) : Option Forest :=
  (p.detections?.filter (!Forest.buildOverflows catalog ·)).map (Forest.build catalog)

def layout (catalog : Catalog) (position : Nat) (p : Player ν) : Layout :=
  match p.forest? catalog with
  | none => .empty position
  | some f => .ofForest position f

end Player

namespace Game
variable {ν : Type}

def layouts (catalog : Catalog) (players : List (Player ν)) : List Layout :=
  players.zipIdx.map fun (p, n) => p.layout catalog n

def scoreAll (layouts : List Layout) (players : List (ν × Layout)) :
    StateM Standings (List (PlayerScore ν)) :=
  players.mapM fun (name, layout) => layout.score layouts name

/-- The scores of all players, in order, if the program gets that far. -/
def results (catalog : Catalog) (players : List (Player ν)) : List (PlayerScore ν) :=
  let layouts := layouts catalog players
  ((scoreAll layouts ((players.map (·.name)).zip layouts)).run {}).1

/-- What the first layout fails with that cannot be scored. -/
def error? (layouts : List Layout) : Option ScoreError :=
  ((layouts.findSomeM? (Layout.error? layouts)).run {}).1

def logged (scores : List (PlayerScore ν)) : Except ScoreError (List (PlayerScore ν)) :=
  if scores.all fun s => (Json.int s.total).withinLimit then .ok scores
  else .error .integerTooLong

def score (catalog : Catalog) (players : List (Player ν)) :
    Except ScoreError (List (PlayerScore ν)) :=
  match error? (layouts catalog players) with
  | some e => .error e
  | none => logged (results catalog players)

end Game
end CardGrove
