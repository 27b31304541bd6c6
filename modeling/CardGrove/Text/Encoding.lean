import CardGrove.Text.Basic

/-! Texts from bytes: in UTF-8, or in units of two or four bytes if the zeros among the first bytes
say so. In such units surrogates may stand alone. -/
namespace CardGrove.Text

def ofUtf8? (bytes : ByteArray) : Option Text := (String.fromUTF8? bytes).map ofString

inductive ByteOrder where
  | lowFirst | highFirst
  deriving DecidableEq, Repr

def ByteOrder.number (order : ByteOrder) (bytes : List UInt8) : Nat :=
  let bytes := match order with
    | .lowFirst => bytes.reverse
    | .highFirst => bytes
  bytes.foldl (fun n b => 256 * n + b.toNat) 0

def pairs? (order : ByteOrder) : List UInt8 → Option (List Nat)
  | [] => some []
  | a :: b :: rest => (pairs? order rest).map (order.number [a, b] :: ·)
  | [_] => none

def quads? (order : ByteOrder) : List UInt8 → Option (List Nat)
  | [] => some []
  | a :: b :: c :: d :: rest => (quads? order rest).map (order.number [a, b, c, d] :: ·)
  | _ => none

def ofPairs : List Nat → Text
  | [] => []
  | [n] => [.ofNumber n]
  | n :: m :: ns =>
    if CodePoint.isHigh n && CodePoint.isLow m then
      .ofNumber (CodePoint.paired n m) :: ofPairs ns
    else .ofNumber n :: ofPairs (m :: ns)

def ofQuads? (ns : List Nat) : Option Text :=
  if ns.all (· ≤ CodePoint.greatestNumber) then some (ns.map .ofNumber) else none

inductive Encoding where
  | bytes
  | pairs (order : ByteOrder)
  | quads (order : ByteOrder)
  deriving DecidableEq, Repr

/-- The encoding of a text that opens with an ASCII character: its unit is filled up with zeros. -/
def Encoding.ofBytes : List UInt8 → Encoding
  | a :: b :: c :: d :: _ =>
    if a = 0 then if b = 0 then .quads .highFirst else .pairs .highFirst
    else if b = 0 then if c = 0 ∧ d = 0 then .quads .lowFirst else .pairs .lowFirst
    else .bytes
  | [a, b] => if a = 0 then .pairs .highFirst else if b = 0 then .pairs .lowFirst else .bytes
  | _ => .bytes

/-- The text of bytes whose encoding is not told. A byte order mark in UTF-8 is passed over. -/
def ofBytes? (bytes : ByteArray) : Option Text :=
  match Encoding.ofBytes bytes.toList with
  | .bytes =>
    match ofUtf8? bytes with
    | some (.char '\uFEFF' :: t) => some t
    | t => t
  | .pairs order => (pairs? order bytes.toList).map ofPairs
  | .quads order => (quads? order bytes.toList).bind ofQuads?

end CardGrove.Text
