import CardGrove.Game
import CardGrove.Json.Printer

/-! Scores as JSON. -/
namespace CardGrove

def CardScore.toJson (c : CardScore) : Json :=
  .obj [("card_id", .str c.label), ("points", .int c.points), ("reason", .str c.reason),
    ("title", .str c.title), ("group", (c.group.map .str).getD .null)]

def PlayerScore.toJson {ν : Type} (encode : ν → Json) (p : PlayerScore ν) : Json :=
  .obj [("name", encode p.name), ("total_score", .int p.total),
    ("card_details", .arr (p.cards.map CardScore.toJson))]

namespace Game

def report {ν : Type} (encode : ν → Json) (scores : List (PlayerScore ν)) : Json :=
  .arr (scores.map (PlayerScore.toJson encode))

end Game
end CardGrove
