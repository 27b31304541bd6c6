import CardGrove.Json.Parser

/-! Percent signs in targets: one before two hexadecimal digits stands for a byte. -/
namespace CardGrove.Target

def escapedByte (b : UInt8) : Text :=
  [.char '%', .char (Nat.digitChar (b.toNat / 16)), .char (Nat.digitChar (b.toNat % 16))]

/-- A text in which only code points of a kind stand for themselves: the bytes of all others are
escaped. Surrogates have none. -/
def escaped (keeps : CodePoint → Bool) (t : Text) : Text :=
  t.flatMap fun c =>
    if keeps c then [c]
    else
      match c with
      | .char d => (String.utf8EncodeChar d).flatMap escapedByte
      | .surrogate _ => [c]

def isKept (escapes : Text) (c : CodePoint) : Bool :=
  0x20 < c.number && c.number < 0x7F && !escapes.contains c

def isKeptInHost : CodePoint → Bool := isKept "#/:<>?@[]^"

def isKeptInPath : CodePoint → Bool := isKept "\"#<>?`\x7b\x7d"

def isKeptInQuery : CodePoint → Bool := isKept "\"#<>"

def isKeptInLocation : CodePoint → Bool := isKept "\"<>;\\^`\x7b|\x7d"

def unescape : Text → Text
  | .char '%' :: a :: b :: cs =>
    match Json.Parser.hexUnit? (.char '0') (.char '0') a b with
    | some n => .ofNumber (if n < 0x80 then n else 0xFFFD) :: unescape cs
    | none => .char '%' :: unescape (a :: b :: cs)
  | c :: cs => c :: unescape cs
  | [] => []

end CardGrove.Target
