import CardGrove.Number.Shortest

/-! The text of doubles in reports: shortest digits, a point in every positional number, and
positional notation from `1e-4` up to `1e16`. -/
namespace CardGrove.FloatText

def dropZeros (digits : List Char) : List Char × Nat :=
  let kept := (digits.reverse.dropWhile (· == '0')).reverse
  (kept, digits.length - kept.length)

def positional (digits : List Char) (point : Int) : List Char :=
  if point ≤ 0 then '0' :: '.' :: List.replicate (-point).toNat '0' ++ digits
  else
    let n := point.toNat
    if digits.length ≤ n then digits ++ List.replicate (n - digits.length) '0' ++ ['.', '0']
    else digits.take n ++ '.' :: digits.drop n

/-- One digit before the point, and an exponent with a sign and at least two digits. -/
def scientific (digits : List Char) (point : Int) : List Char :=
  let exponent := point - 1
  let figures := Nat.toDigits 10 exponent.natAbs
  digits.take 1 ++ (if digits.length ≤ 1 then [] else '.' :: digits.drop 1) ++
    'e' :: (if exponent < 0 then '-' else '+') ::
      (List.replicate (2 - figures.length) '0' ++ figures)

def ofPositive (x : Float) : List Char :=
  let (n, place) := Shortest.ofBits x.toBits
  let (digits, dropped) := dropZeros (Nat.toDigits 10 n)
  let point := Int.ofNat (digits.length + dropped) + place
  if point ≤ -4 || 16 < point then scientific digits point else positional digits point

def chars (x : Float) : List Char :=
  if x.isNaN then "NaN".toList
  else
    let negative := x.toBits.toNat / Nat.pow 2 63 = 1
    let body :=
      if x.isInf then "Infinity".toList
      else if x == 0 then "0.0".toList
      else ofPositive x
    if negative then '-' :: body else body

end CardGrove.FloatText
