import CardGrove.Catalog.Basic

/-! The card definitions that are used when no others are given. -/
namespace CardGrove.Catalog

/-- Id, tags, type, rule and joker type of every card. -/
def bundledDefinitions : List Definition :=
  [
    ⟨"oak", ["Tree"], none,
      some ⟨.fixed 10, some 8, some { tags := some ["Tree"], unique := true }⟩, none⟩,
    ⟨"birch", ["Tree"], none, some ⟨.fixed 1, none, none⟩, none⟩,
    ⟨"beech", ["Tree"], none, some ⟨.fixed 5, some 4, some { names := some ["beech"] }⟩, none⟩,
    ⟨"linden", ["Tree"], none,
      some ⟨.fixed 3, none, some { names := some ["linden"], most := true }⟩, none⟩,
    ⟨"horse_chestnut", ["Tree"], none,
      some ⟨.table [1, 4, 9, 16, 25, 36, 49], none,
        some { names := some ["horse_chestnut"], unique := true }⟩, none⟩,
    ⟨"silver_fir", ["Tree"], none, some ⟨.multiplication 2, none, some { sameTree := true }⟩, none⟩,
    ⟨"douglas_fir", ["Tree"], none, some ⟨.fixed 5, none, none⟩, none⟩,
    ⟨"sycamore", ["Tree"], none,
      some ⟨.multiplication 1, none, some { tags := some ["Tree"] }⟩, none⟩,
    ⟨"tree_sapling", ["Tree"], none, none, none⟩,
    ⟨"wolf", ["Paw"], none, some ⟨.multiplication 5, none, some { kind := some "Deer" }⟩, none⟩,
    ⟨"brown_bear", ["Paw"], none, none, none⟩,
    ⟨"lynx", ["Paw"], none, some ⟨.fixed 10, none, some { names := some ["roe_deer"] }⟩, none⟩,
    ⟨"red_fox", ["Paw"], none,
      some ⟨.multiplication 2, none, some { names := some ["european_hare"] }⟩, none⟩,
    ⟨"european_hare", ["Paw"], none,
      some ⟨.multiplication 1, none, some { names := some ["european_hare"] }⟩, none⟩,
    ⟨"roe_deer", ["Hoofed"], some "Deer",
      some ⟨.multiplication 3, none, some { sameSymbol := true }⟩, none⟩,
    ⟨"red_deer", ["Hoofed"], some "Deer",
      some ⟨.multiplication 1, none, some { tags := some ["Tree", "Plant"] }⟩, none⟩,
    ⟨"fallow_deer", ["Hoofed"], some "Deer",
      some ⟨.multiplication 3, none, some { tags := some ["Hoofed"], sameSymbol := true }⟩, none⟩,
    ⟨"wild_boar", ["Hoofed"], none,
      some ⟨.fixed 10, none, some { names := some ["squeaker"] }⟩, none⟩,
    ⟨"squeaker", ["Hoofed"], none, some ⟨.fixed 1, none, none⟩, none⟩,
    ⟨"deer_spirit", ["Hoofed"], none, none, some "Deer"⟩,
    ⟨"camberwell_beauty", ["Butterfly", "Insect"], none,
      some ⟨.table [0, 3, 6, 12, 20, 35, 55], none,
        some { tags := some ["Butterfly"], unique := true }⟩, none⟩,
    ⟨"peacock_butterfly", ["Butterfly", "Insect"], none,
      some ⟨.table [0, 3, 6, 12, 20, 35, 55], none,
        some { tags := some ["Butterfly"], unique := true }⟩, none⟩,
    ⟨"silver_washed_fritillary", ["Butterfly", "Insect"], none,
      some ⟨.table [0, 3, 6, 12, 20, 35, 55], none,
        some { tags := some ["Butterfly"], unique := true }⟩, none⟩,
    ⟨"fireflies", ["Insect"], none,
      some ⟨.table [0, 10, 15, 20], none, some { names := some ["fireflies"] }⟩, none⟩,
    ⟨"stag_beetle", ["Insect"], none,
      some ⟨.multiplication 1, none, some { tags := some ["Bird"] }⟩, none⟩,
    ⟨"great_spotted_woodpecker", ["Bird"], none,
      some ⟨.fixed 10, none, some { tags := some ["Tree"], most := true }⟩, none⟩,
    ⟨"tawny_owl", ["Bird"], none, some ⟨.fixed 5, none, none⟩, none⟩,
    ⟨"chaffinch", ["Bird"], none,
      some ⟨.fixed 5, none, some { names := some ["beech"], sameTree := true }⟩, none⟩,
    ⟨"bullfinch", ["Bird"], none,
      some ⟨.multiplication 2, none, some { tags := some ["Insect"] }⟩, none⟩,
    ⟨"barbastelle_bat", ["Bat"], none,
      some ⟨.fixed 5, some 3, some { tags := some ["Bat"], unique := true }⟩, none⟩,
    ⟨"bechsteins_bat", ["Bat"], none,
      some ⟨.fixed 5, some 3, some { tags := some ["Bat"], unique := true }⟩, none⟩,
    ⟨"common_noctule", ["Bat"], none,
      some ⟨.fixed 5, some 3, some { tags := some ["Bat"], unique := true }⟩, none⟩,
    ⟨"beech_marten", ["Paw"], none, some ⟨.fixed 5, none, some { fullTree := true }⟩, none⟩,
    ⟨"common_toad", ["Amphibian"], none,
      some ⟨.fixed 5, some 2, some { names := some ["common_toad"], sameSpot := true }⟩, none⟩,
    ⟨"fire_salamander", ["Amphibian"], none,
      some ⟨.table [5, 15, 25], none, some { names := some ["fire_salamander"] }⟩, none⟩,
    ⟨"tree_ferns", ["Plant"], none,
      some ⟨.multiplication 6, none, some { tags := some ["Amphibian"] }⟩, none⟩,
    ⟨"moss", ["Plant"], none, some ⟨.fixed 10, some 10, some { tags := some ["Tree"] }⟩, none⟩,
    ⟨"wild_strawberries", ["Plant"], none,
      some ⟨.fixed 10, some 8, some { tags := some ["Tree"], unique := true }⟩, none⟩,
    ⟨"blackberries", ["Plant"], none,
      some ⟨.multiplication 2, none, some { tags := some ["Plant"] }⟩, none⟩,
    ⟨"chanterelle", ["Mushroom"], none,
      some ⟨.multiplication 1, none, some { position := some ["below"] }⟩, none⟩,
    ⟨"mole", ["Paw"], none,
      some ⟨.multiplication 2, some 2, some { tags := some ["Mushroom"], most := true }⟩, none⟩
  ]

def bundled : Catalog := ofDefinitions bundledDefinitions

end CardGrove.Catalog
