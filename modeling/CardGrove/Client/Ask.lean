import CardGrove.Client.Target.Moved
import CardGrove.Service

/-! Asking the service as a client does: by any target, with the method in any case. A client that
is sent to another path has to be able to ask for that. -/
namespace CardGrove

namespace Text

/-- The code points beyond ASCII whose capital form is within it. -/
def asciiCapitals : List (Nat × String) :=
  [(0xDF, "SS"), (0x131, "I"), (0x17F, "S"), (0xFB00, "FF"), (0xFB01, "FI"), (0xFB02, "FL"),
    (0xFB03, "FFI"), (0xFB04, "FFL"), (0xFB05, "ST"), (0xFB06, "ST")]

def toUpper (t : Text) : Text :=
  t.flatMap fun c =>
    match asciiCapitals.lookup c.number with
    | some capitals => capitals
    | none => [(c.char?.map fun c => .char c.toUpper).getD c]

end Text

namespace Client

inductive AskError where
  | target (e : TargetError)
  | unknownScheme
  | lost
  | service (e : ServiceError)
  deriving DecidableEq, Repr

/-- Follows an answer from a target to another path: with the fragment of a target that names its
path itself, in which escapes are undone. -/
def follow (target : Target) (line : Text) : Except AskError Response :=
  match target.moved line with
  | .error .unknownScheme => .error .unknownScheme
  | .error .unnamedSocket => .error .lost
  | .ok location =>
    match Target.read location with
    | .error _ => .error .lost
    | .ok _ =>
      if target.isAbsolute && !Target.isPrintable (Target.unescape target.fragment) then
        .error (.target .malformed)
      else .ok (.moved line)

def ask (framework : Framework) (source : CatalogSource) (method target : Text) (body : Body) :
    Except AskError Response := do
  let target ← (Target.read target).mapError .target
  let request : Request := { method := Text.toUpper method, path := target.asked, body }
  match ← (Service.answer framework source request).mapError .service with
  | .moved line => follow target line
  | response => return response

end Client
end CardGrove
