import CardGrove.Catalog.Bundled
import CardGrove.Catalog.Reading
import CardGrove.Json.Parser
import CardGrove.Text.Encoding

/-! Loading a catalog from where it is kept, and what can go wrong. -/
namespace CardGrove

inductive CatalogSource where
  | bundled
  | missing (path : String)
  | file (bytes : ByteArray)

inductive CatalogError where
  | missing (path : String)
  | malformed
  | invalid (issues : Nat)
  | undecodable
  | integerTooLong
  | tooDeep
  deriving DecidableEq, Repr

structure Failure where
  kind : String
  message : String
  detail : String
  suggestion : String
  status : Nat
  deriving DecidableEq, Repr

namespace CatalogError

def suggestion : String :=
  "Check FORESTSCORER_CARD_DEFINITIONS_PATH and the document format."

def issuesText (n : Nat) : String := toString n ++ " validation error(s)"

def configurationFailure (message detail : String) : Failure :=
  ⟨"configuration_error", message, detail, suggestion, 503⟩

/-- The explanation of an error, if it is foreseen: a missing file, a text that is not JSON, and a
document of another form are; the detail of a text that is not JSON names who refused it. -/
def failure? : CatalogError → Option Failure
  | missing path =>
    some (configurationFailure ("Card definitions not found at " ++ path ++ ".") path)
  | malformed => some (configurationFailure "Card definitions are not valid JSON." "<parser>")
  | invalid n =>
    some (configurationFailure "Card definitions do not match the expected format."
      (issuesText n))
  | undecodable | integerTooLong | tooDeep => none

end CatalogError

namespace Catalog

def ofDocument (v : Json) : Except CatalogError Catalog :=
  match readDefinitions v with
  | .ok cards => .ok (ofDefinitions cards)
  | .bad issues => .error (.invalid issues.length)

def ofText (depth : Nat) (text : Text) : Except CatalogError Catalog :=
  match Json.parseTo depth text with
  | .ok v => ofDocument v
  | .error .malformed => .error .malformed
  | .error .integerTooLong => .error .integerTooLong
  | .error .tooDeep => .error .tooDeep

def ofBytes (depth : Nat) (bytes : ByteArray) : Except CatalogError Catalog :=
  match Text.ofUtf8? bytes with
  | some text => ofText depth text
  | none => .error .undecodable

def loadTo (depth : Nat) : CatalogSource → Except CatalogError Catalog
  | .bundled => .ok bundled
  | .missing path => .error (.missing path)
  | .file bytes => ofBytes depth bytes

end Catalog
end CardGrove
