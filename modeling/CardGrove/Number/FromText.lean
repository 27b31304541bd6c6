import CardGrove.Number.Decimal
import CardGrove.Text.Blank

/-! Numbers written as texts, as a lenient reader takes them: white space around them, a sign,
single underscores between digits. -/
namespace CardGrove.FromText

def dropUnderscores (t : Text) : Option Text :=
  let parts := t.splitOn (.char '_')
  if parts.length ≤ 1 || parts.all (!·.isEmpty) then some parts.flatten else none

def isZeroOrUnderscore (c : CodePoint) : Bool := c == .char '0' || c == .char '_'

/-- A number without its leading zeros, of which the last one stays before a point and at the end;
underscores among them are dropped with them. A minus may follow them. -/
def dropZeros : Text → Option Text
  | [] => none
  | .char '0' :: cs =>
    let last := (.char '0' :: cs.takeWhile isZeroOrUnderscore).getLast?
    match cs.dropWhile isZeroOrUnderscore with
    | [] => last.map ([·])
    | .char '.' :: rest => last.map (· :: .char '.' :: rest)
    | c :: rest => if c.isDigit || c == .char '-' then some (c :: rest) else none
  | c :: cs => if c.isDigit then some (c :: cs) else none

def dropZeroFraction (t : Text) : Text :=
  match t.dropWhile (· != .char '.') with
  | _ :: zero :: zeros =>
    if (zero :: zeros).all (· == .char '0') then t.takeWhile (· != .char '.') else t
  | _ => t

def greatestLength : Nat := 4300

def digits (t : Text) : Option Int :=
  if t.isEmpty || !t.all CodePoint.isDigit || (t.head? == some (.char '0') && 1 < t.length) ||
      greatestLength < t.length then none
  else some (Int.ofNat (Decimal.ofDigits (Text.characters t)))

/-- The integer in a text. A minus may stand before its leading zeros or after them, but not in
both places. -/
def integer (t : Text) : Option Int := do
  let unsigned (t : Text) : Option Text := do
    dropUnderscores (dropZeroFraction (← dropZeros t))
  match Text.trim Text.isWhiteSpace t with
  | .char '-' :: cs => return -(← digits (← unsigned cs))
  | .char '+' :: .char '-' :: _ => none
  | cs =>
    let cs := match cs with
      | .char '+' :: cs => cs
      | cs => cs
    match ← unsigned cs with
    | .char '-' :: cs => return -(← digits cs)
    | cs => digits cs

def plainNumber (negative : Bool) (t : Text) : Option Float :=
  let whole := t.takeWhile CodePoint.isDigit
  let rest := t.dropWhile CodePoint.isDigit
  let (part, rest) := match rest with
    | .char '.' :: rest => (rest.takeWhile CodePoint.isDigit, rest.dropWhile CodePoint.isDigit)
    | rest => ([], rest)
  if whole.isEmpty && part.isEmpty then none
  else
    let read (shift : Int) : Float := Decimal.toFloat
      ⟨negative, Decimal.ofDigits (Text.characters (whole ++ part)),
        shift - Int.ofNat part.length⟩
    match rest with
    | [] => some (read 0)
    | c :: rest =>
      let (down, ds) := match rest with
        | .char '-' :: rest => (true, rest)
        | .char '+' :: rest => (false, rest)
        | rest => (false, rest)
      if c.toLower != .char 'e' || ds.isEmpty || !ds.all CodePoint.isDigit then none
      else
        let n := Int.ofNat (Decimal.ofDigits (Text.characters ds))
        some (read (if down then -n else n))

def signedNumber (t : Text) : Option Float :=
  let (negative, t) := match t with
    | .char '-' :: cs => (true, cs)
    | .char '+' :: cs => (false, cs)
    | cs => (false, cs)
  let word := Text.toLower t
  if word = "nan" then some Decimal.notANumber
  else if word = "inf" ∨ word = "infinity" then
    some (if negative then -Decimal.infinity else Decimal.infinity)
  else plainNumber negative t

/-- The number in a text: white space may stand around it or underscores in it, but not both. -/
def number (t : Text) : Option Float :=
  (signedNumber (Text.trim Text.isWhiteSpace t)).or ((dropUnderscores t).bind signedNumber)

end CardGrove.FromText
