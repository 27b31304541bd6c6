import CardGrove.Text.Basic

/-! JSON values. A number written without fraction and exponent is an integer of any size, any
other number is a double. The members of an object keep their order. -/
namespace CardGrove

inductive Json where
  | null
  | bool (b : Bool)
  | int (n : Int)
  | float (x : Float)
  | str (s : Text)
  | arr (items : List Json)
  | obj (members : List (Text × Json))

namespace Json

def setMember (key : Text) (value : Json) : List (Text × Json) → List (Text × Json)
  | [] => [(key, value)]
  | (k, v) :: rest =>
    if k = key then (key, value) :: rest else (k, v) :: setMember key value rest

/-- The members of an object written with repeated keys: the last value of a key, at the place of
its first. -/
def ofWritten (members : List (Text × Json)) : List (Text × Json) :=
  members.foldl (fun done (key, value) => setMember key value done) []

def member? (key : Text) : Json → Option Json
  | obj members => members.lookup key
  | _ => none

/-- The longest integers that are read or written have this many digits. -/
def greatestDigits : Nat := 4300

mutual

def every (test : Json → Bool) : Json → Bool
  | arr items => test (arr items) && everyItem test items
  | obj members => test (obj members) && everyMember test members
  | v => test v

def everyItem (test : Json → Bool) : List Json → Bool
  | [] => true
  | item :: rest => every test item && everyItem test rest

def everyMember (test : Json → Bool) : List (Text × Json) → Bool
  | [] => true
  | (_, v) :: rest => every test v && everyMember test rest

end

mutual

def depth : Json → Nat
  | arr items => depthOfItems items + 1
  | obj members => depthOfMembers members + 1
  | _ => 0

def depthOfItems : List Json → Nat
  | [] => 0
  | item :: rest => max (depth item) (depthOfItems rest)

def depthOfMembers : List (Text × Json) → Nat
  | [] => 0
  | (_, v) :: rest => max (depth v) (depthOfMembers rest)

end

mutual

/-- How far one gets into a value when it is copied: two steps for an array or object and then what
is in it, three for any other value and for a key. -/
def copyDepth : Json → Nat
  | arr items => copyDepthOfItems items + 2
  | obj members => copyDepthOfMembers members + 2
  | _ => 3

def copyDepthOfItems : List Json → Nat
  | [] => 0
  | item :: rest => max (copyDepth item) (copyDepthOfItems rest)

def copyDepthOfMembers : List (Text × Json) → Nat
  | [] => 0
  | (_, v) :: rest => max 3 (max (copyDepth v) (copyDepthOfMembers rest))

end

mutual

/-- A value without the members, of any object within it, whose keys pass a test. -/
def prune (drops : Text → Bool) : Json → Json
  | arr items => arr (pruneItems drops items)
  | obj members => obj (pruneMembers drops members)
  | v => v

def pruneItems (drops : Text → Bool) : List Json → List Json
  | [] => []
  | item :: rest => prune drops item :: pruneItems drops rest

def pruneMembers (drops : Text → Bool) : List (Text × Json) → List (Text × Json)
  | [] => []
  | (key, v) :: rest =>
    if drops key then pruneMembers drops rest
    else (key, prune drops v) :: pruneMembers drops rest

end

def withinLimit : Json → Bool :=
  every fun
    | int n => (Nat.toDigits 10 n.natAbs).length ≤ greatestDigits
    | _ => true

/-- No infinity and no NaN, for which standard JSON has no numerals, is within a value. -/
def isFinite : Json → Bool :=
  every fun
    | float x => x.isFinite
    | _ => true

def isEncodable : Json → Bool :=
  every fun
    | str s => s.isEncodable
    | obj members => members.all (·.1.isEncodable)
    | _ => true

end Json
end CardGrove
