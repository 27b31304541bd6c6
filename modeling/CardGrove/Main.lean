import CardGrove.Fixture

/-! Scores a fixture file and prints the scores as JSON. -/
namespace CardGrove.Main

/-- The deepest nesting of a catalog and a fixture, and how far names are copied. -/
def readDepth : Nat := 988

def copyDepth : Nat := 992

def usage : String := "usage: cardgrove FIXTURE [--cards CARDS]"

def paths? : List String → Option (String × Option String)
  | [fixture] => some (fixture, none)
  | [fixture, "--cards", cards] => some (fixture, some cards)
  | ["--cards", cards, fixture] => some (fixture, some cards)
  | _ => none

def bytes? (path : String) : IO (Option ByteArray) := do
  try
    return some (← IO.FS.readBinFile path)
  catch _ => return none

/-- Where the card definitions are kept: in the file that is named, else in the one that is
configured, else in the program. -/
def source (cards : Option String) : IO CatalogSource := do
  let configured ← IO.getEnv "FORESTSCORER_CARD_DEFINITIONS_PATH"
  match cards.or configured with
  | none => return .bundled
  | some path =>
    match ← bytes? path with
    | none => return .missing path
    | some bytes => return .file bytes

def errorText : Fixture.RunError → String
  | .catalog e => ((e.failure?).map (·.message)).getD "Card definitions cannot be read."
  | .fixture _ | .score _ => "The fixture cannot be scored."

end CardGrove.Main

open CardGrove in
def main (args : List String) : IO UInt32 := do
  match Main.paths? args with
  | none =>
    IO.eprintln Main.usage
    return 2
  | some (path, cards) =>
    let source ← Main.source cards
    let fixture := match ← Main.bytes? path with
      | none => .error .missing
      | some bytes => Fixture.ofBytes Main.readDepth bytes
    match Fixture.run Main.readDepth source fixture >>= Fixture.text Main.copyDepth with
    | .ok text =>
      match Text.string? text with
      | some s =>
        IO.print s
        return 0
      | none =>
        IO.eprintln "The scores hold a text that cannot be printed."
        return 1
    | .error e =>
      IO.eprintln (Main.errorText e)
      return 1
