import CardGrove.Client.Host.Context
import CardGrove.Client.Host.Permitted
import CardGrove.Client.Host.Punycode
import CardGrove.Client.Text.Composed

/-! The parts of a name, between its points. A part beyond ASCII is written in ASCII by an
opening and Punycode. -/
namespace CardGrove.Host

inductive NameError where
  | malformed
  | notPermitted
  | outOfPlace
  | notOrdered
  deriving DecidableEq, Repr

namespace Part

def greatestLength : Nat := 63

def greatestNameLength : Nat := 254

def opening : Text := "xn--"

/-- No hyphen is at an end, and there are not two of them after two other characters. -/
def hasHyphensWithin (t : Text) : Bool :=
  (t.drop 2).take 2 != "--" && t.head? != some (.char '-') && t.getLast? != some (.char '-')

def pointError? (before : Text) (c : CodePoint) (after : Text) : Option NameError :=
  if isPermitted c then none
  else if isJoiner c then
    if before.head?.any isUnknown then some .malformed
    else if mayJoin before c after then none
    else some .outOfPlace
  else
    match mayStand? before c after with
    | some true => none
    | some false => some .outOfPlace
    | none => some .notPermitted

def pointsError? (before : Text) : Text → Option NameError
  | [] => none
  | c :: after =>
    match pointError? before c after with
    | some e => some e
    | none => pointsError? (c :: before) after

def check (t : Text) : Except NameError Text :=
  if t.isEmpty || greatestNameLength < t.length || !t.isComposed || !hasHyphensWithin t ||
      t.head?.any CodePoint.isMark then .error .malformed
  else
    match pointsError? [] t with
    | some e => .error e
    | none => if isOrdered t then .ok t else .error .notOrdered

/-- A part in ASCII as it reads. Only the code that a text is written in reads as that text: a
hyphen before which nothing stands could be left out of a code. -/
def read (t : Text) : Except NameError Text :=
  if opening.isPrefixOf t then
    let code := t.drop opening.length
    if code.isEmpty || code.getLast? = some (.char '-') then .error .malformed
    else
      match Punycode.decode? code with
      | some t => if Punycode.encode t = code then check t else .error .malformed
      | none => .error .malformed
  else check t

def written (t : Text) : Except NameError Text := do
  let code ←
    if t.isAscii then (read t).map fun _ => t
    else (check t).map fun t => opening ++ Punycode.encode t
  if greatestLength < code.length then .error .malformed else .ok code

end Part
end CardGrove.Host
