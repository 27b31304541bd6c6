import CardGrove.Text.Basic

/-! Punycode: texts written by small letters, digits and hyphens. The ASCII part of a text stands
first. What else is in it follows as numbers, each of which says how far it is to the next place
where a code point goes in, counted over all places for all code points in order. The digits of a
number have weights that depend on how large the numbers before it were. -/
namespace CardGrove.Host.Punycode

def base : Nat := 36

def digit (d : Nat) : CodePoint := .ofNumber (if d < 26 then 'a'.toNat + d else '0'.toNat + (d - 26))

def value? (c : CodePoint) : Option Nat :=
  let n := c.number
  if 'a'.toNat ≤ n && n ≤ 'z'.toNat then some (n - 'a'.toNat)
  else if c.isDigit then some (n - '0'.toNat + 26)
  else none

/-- A digit with a smaller value than this ends a number. The places of digits are counted from
zero. -/
def threshold (bias place : Nat) : Nat := min 26 (max 1 (base * (place + 1) - bias))

theorem threshold_pos (bias place : Nat) : 1 ≤ threshold bias place := by
  unfold threshold; omega

def scaled (n : Nat) : Nat × Nat :=
  if 455 < n then
    let (times, rest) := scaled (n / 35)
    (times + 1, rest)
  else (0, n)
termination_by n
decreasing_by omega

/-- The bias after a number, when the text has a length. The first number counts less. -/
def adapted (n length : Nat) (isFirst : Bool) : Nat :=
  let half := if isFirst then n / 700 else n / 2
  let (times, rest) := scaled (half + half / length)
  base * times + base * rest / (rest + 38)

def firstPoint : Nat := 0x80

def digits (bias place n : Nat) : Text :=
  let t := threshold bias place
  if n < t then [digit n]
  else digit (t + (n - t) % (base - t)) :: digits bias (place + 1) ((n - t) / (base - t))
termination_by n
decreasing_by
  have := threshold_pos bias place
  exact Nat.lt_of_le_of_lt (Nat.div_le_self _ _) (by omega)

/-- What has been written: the numbers so far, how far it is from the last place that was named,
and how many code points are in the text that has been described. -/
structure Writing where
  written : Text := []
  gap : Nat := 0
  bias : Nat := 72
  length : Nat
  isFirst : Bool := true
  next : Nat := firstPoint

namespace Writing

def name (w : Writing) : Writing :=
  { w with
    written := w.written ++ digits w.bias 0 w.gap
    gap := 0
    bias := adapted w.gap (w.length + 1) w.isFirst
    length := w.length + 1
    isFirst := false }

def namePlaces (t : Text) (w : Writing) (point : Nat) : Writing :=
  let start := { w with gap := w.gap + (point - w.next) * (w.length + 1) }
  let done := t.foldl (fun (w : Writing) c =>
    if c.number < point then { w with gap := w.gap + 1 }
    else if c.number = point then w.name
    else w) start
  { done with gap := done.gap + 1, next := point + 1 }

end Writing

def encode (t : Text) : Text :=
  let ascii := t.filter CodePoint.isAscii
  let points := ((t.filter (!·.isAscii)).map (·.number)).mergeSort.eraseDups
  let start : Writing := { length := ascii.length }
  (if ascii.isEmpty then [] else ascii ++ [.char '-']) ++
    (points.foldl (Writing.namePlaces t) start).written

/-- What has been read: the text that the numbers so far describe, where the count of places is,
and the number that is being read. -/
structure Reading where
  text : Text
  point : Nat := firstPoint
  position : Nat := 0
  bias : Nat := 72
  isFirst : Bool := true
  number : Nat := 0
  weight : Nat := 1
  place : Nat := 0

namespace Reading

def insert (r : Reading) (n : Nat) : Option Reading :=
  let places := r.text.length + 1
  let reached := r.position + n
  let point := r.point + reached / places
  let position := reached % places
  if CodePoint.greatestNumber < point then none
  else some {
    text := r.text.take position ++ .ofNumber point :: r.text.drop position
    point
    position := position + 1
    bias := adapted n places r.isFirst
    isFirst := false }

def step (r : Reading) (c : CodePoint) : Option Reading := do
  let d ← value? c
  let t := threshold r.bias r.place
  let n := r.number + d * r.weight
  if d < t then r.insert n
  else some { r with number := n, weight := r.weight * (base - t), place := r.place + 1 }

end Reading

def decode? (t : Text) : Option Text := do
  let behind := (t.reverse.takeWhile (· != .char '-')).reverse
  let start : Reading := { text := t.take (t.length - behind.length - 1) }
  let r ← behind.foldlM Reading.step start
  if r.place = 0 then some r.text else none

end CardGrove.Host.Punycode
