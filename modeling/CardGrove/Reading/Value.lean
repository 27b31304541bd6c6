import CardGrove.Number.FromText
import CardGrove.Reading.Checked

/-! Lenient readers of JSON values: numbers may stand for flags, and texts for numbers and flags.
Members of objects that are not asked for are ignored. -/
namespace CardGrove.Json
variable {α β : Type}

def text : Json → Checked Text
  | str s => .ok s
  | v => .refuse .notText v

def yesWords : List Text := ["1", "t", "true", "on", "y", "yes"]

def noWords : List Text := ["0", "f", "false", "off", "n", "no"]

def flag? : Json → Option Bool
  | bool b => some b
  | int 0 => some false
  | int 1 => some true
  | float x => if x == 0.0 then some false else if x == 1.0 then some true else none
  | str s =>
    if yesWords.contains (Text.toLower s) then some true
    else if noWords.contains (Text.toLower s) then some false
    else none
  | _ => none

def flag (v : Json) : Checked Bool := .ofOption .notFlag v (flag? v)

def greatestWhole : Float := 9223372036854775808.0

def wholeNumber? (x : Float) : Option Int :=
  if -greatestWhole < x && x < greatestWhole then
    let n := x.toInt64.toInt
    if Decimal.floatOfInt n == x then some n else none
  else none

def integer? : Json → Option Int
  | bool b => some (if b then 1 else 0)
  | int n => some n
  | float x => wholeNumber? x
  | str s => FromText.integer s
  | _ => none

def integer (v : Json) : Checked Int := .ofOption .notInteger v (integer? v)

def nearest? (n : Int) : Option Float :=
  let x := Decimal.floatOfInt n
  if x.isInf then none else some x

def number (v : Json) : Checked Float :=
  match v with
  | bool b => .ok (if b then 1.0 else 0.0)
  | int n => .ofOption .notNumber v (nearest? n)
  | float x => .ok x
  | str s => .ofOption .notNumeral v (FromText.number s)
  | _ => .refuse .notNumber v

def list (read : Json → Checked α) : Json → Checked (List α)
  | arr items => .allFrom read 0 items
  | v => .refuse .notList v

def nullable (read : Json → Checked α) : Json → Checked (Option α)
  | null => .ok none
  | v => (read v).map some

def object (read : Json → Checked α) (v : Json) : Checked α :=
  match v with
  | obj _ => read v
  | _ => .refuse .notObject v

def required (key : Text) (read : Json → Checked α) (v : Json) : Checked α :=
  .below (.key key)
    (match v.member? key with
    | some m => read m
    | none => .refuse .missing v)

/-- The first of some members that is there, or a default. -/
def firstOf (keys : List Text) (default : α) (read : Json → Checked α) (v : Json) : Checked α :=
  match keys with
  | [] => .ok default
  | key :: keys =>
    match v.member? key with
    | some m => .below (.key key) (read m)
    | none => firstOf keys default read v

end CardGrove.Json
