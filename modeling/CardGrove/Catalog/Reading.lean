import CardGrove.Catalog.Basic
import CardGrove.Reading.Value

/-! Reading card definitions from a JSON document. -/
namespace CardGrove

open Json in
/-- A condition. Keys in camel case come before the same keys with underscores. -/
def Condition.read : Json → Checked Condition :=
  object fun v =>
    Condition.mk <$> firstOf ["name", "names"] none (nullable (list text)) v
      <*> firstOf ["tags"] none (nullable (list text)) v
      <*> firstOf ["type"] none (nullable text) v
      <*> firstOf ["unique"] false flag v
      <*> firstOf ["sameTree", "same_tree"] false flag v
      <*> firstOf ["sameTreeSymbol", "same_tree_symbol"] false flag v
      <*> firstOf ["fullTree", "full_tree"] false flag v
      <*> firstOf ["most"] false flag v
      <*> firstOf ["sameSpot", "same_spot"] false flag v
      <*> firstOf ["position"] none (nullable (list text)) v

namespace Rule
open Json

def readRest (payout : Checked Payout) (v : Json) : Checked Rule :=
  Rule.mk <$> payout
    <*> firstOf ["min"] none (nullable integer) v
    <*> firstOf ["condition"] none (nullable Condition.read) v

/-- A rule, by its type in any case. Without a known type nothing else of it is read. -/
def read (v : Json) : Checked Rule :=
  match v.member? "type" with
  | some (.str kind) =>
    if Text.toLower kind = "fixed" then
      readRest (.fixed <$> firstOf ["amount"] 0 integer v) v
    else if Text.toLower kind = "multiplication" then
      readRest (.multiplication <$> firstOf ["amount"] 0 integer v) v
    else if Text.toLower kind = "table" then
      readRest (.table <$> firstOf ["amount", "amounts"] [] (list integer) v) v
    else .refuse .notRule v
  | _ => .refuse .notRule v

end Rule

open Json in
def Definition.read : Json → Checked Definition :=
  object fun v =>
    Definition.mk <$> required "id" text v
      <*> firstOf ["tags"] [] (list text) v
      <*> firstOf ["type"] none (nullable text) v
      <*> firstOf ["score"] none (nullable Rule.read) v
      <*> firstOf ["joker"] none (nullable (object (required "type" text))) v

open Json in
def Catalog.readDefinitions : Json → Checked (List Definition) :=
  object (firstOf ["cards"] [] (list Definition.read))

end CardGrove
