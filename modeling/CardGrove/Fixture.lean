import CardGrove.Catalog.Loading
import CardGrove.Report

/-! Fixtures: games written as players with boxes of five items, the corners and the label. Corners
that are integers stay exact. The name of a player is any value and is passed through. -/
namespace CardGrove

inductive FixtureError where
  | missing
  | malformed
  | undecodable
  | integerTooLong
  | tooDeep
  | notObject
  | notList
  | notFive
  | notNumber
  | outOfRange
  | unnamed
  deriving DecidableEq, Repr

namespace Fixture

/-- What a value lists: the items of an array, the keys of an object, the code points of a text. -/
def listed : Json → Except FixtureError (List Json)
  | .arr items => .ok items
  | .obj members => .ok (members.map fun m => .str m.1)
  | .str s => .ok (s.map fun c => .str [c])
  | _ => .error .notList

def listedMember (key : Text) : Json → Except FixtureError (List Json)
  | .obj members => ((members.lookup key).map listed).getD (.ok [])
  | _ => .error .notObject

def corner : Json → Except FixtureError Scalar
  | .bool b => .ok (.whole (if b then 1 else 0))
  | .int n => .ok (.whole n)
  | .float x => .ok (.written x)
  | _ => .error .notNumber

def extent (low high : Json) : Except FixtureError (Scalar × Scalar) := do
  let a ← corner low
  let b ← corner high
  if b.clash a then .error .outOfRange else return (a, b)

def middleOverflows (low high : Scalar) : Bool :=
  (high - low).quotientOverflows 2 || low.isHuge

def label? : Json → Option Text
  | .str s => some s
  | _ => none

def sighting (box : Json) : Except FixtureError Sighting := do
  match ← listed box with
  | [x1, y1, x2, y2, label] =>
    let (left, right) ← extent x1 x2
    let (top, bottom) ← extent y1 y2
    if middleOverflows left right || middleOverflows top bottom then .error .outOfRange
    else return ⟨Box.ofCorners left top right bottom, label? label⟩
  | _ => .error .notFive

/-- A player; the boxes are read before the name. -/
def player (v : Json) : Except FixtureError (Player Json) := do
  let cards ← (← listedMember "boxes" v).mapM sighting
  match v.member? "name" with
  | some name => return ⟨name, cards⟩
  | none => .error .unnamed

def players (v : Json) : Except FixtureError (List (Player Json)) := do
  (← listedMember "players" v).mapM player

def ofBytes (depth : Nat) (bytes : ByteArray) : Except FixtureError Json :=
  match Text.ofUtf8? bytes with
  | none => .error .undecodable
  | some text =>
    match Json.parseTo depth text with
    | .ok v => .ok v
    | .error .malformed => .error .malformed
    | .error .integerTooLong => .error .integerTooLong
    | .error .tooDeep => .error .tooDeep

inductive RunError where
  | catalog (e : CatalogError)
  | fixture (e : FixtureError)
  | score (e : ScoreError)
  deriving DecidableEq, Repr

/-- The scores of a fixture, with a catalog that is nested to some depth at most. The catalog is
loaded before the fixture is looked at. -/
def run (depth : Nat) (source : CatalogSource) (fixture : Except FixtureError Json) :
    Except RunError (List (PlayerScore Json)) := do
  let catalog ← (Catalog.loadTo depth source).mapError .catalog
  let v ← fixture.mapError .fixture
  let players ← (players v).mapError .fixture
  (Game.score catalog players).mapError .score

/-- The text printed for the scores of a fixture. Names are copied before, and not further into than
some depth. -/
def text (copyDepth : Nat) (scores : List (PlayerScore Json)) : Except RunError Text :=
  let report := Game.report (fun name => name) scores
  if scores.any (copyDepth < ·.name.copyDepth) then .error (.fixture .tooDeep)
  else if report.withinLimit then .ok (report.indented ++ "\n")
  else .error (.fixture .integerTooLong)

end Fixture
end CardGrove
