import CardGrove.Text.Basic

/-! Blank characters, and text without its blank ends. -/
namespace CardGrove.Text

def isWhiteSpace (c : CodePoint) : Bool :=
  let n := c.number
  (0x09 ≤ n && n ≤ 0x0D) || n == 0x20 || n == 0x85 || n == 0xA0 || n == 0x1680 ||
    (0x2000 ≤ n && n ≤ 0x200A) || n == 0x2028 || n == 0x2029 || n == 0x202F || n == 0x205F ||
    n == 0x3000

/-- White space, and the four information separators, whose direction class is that of a space. -/
def isBlank (c : CodePoint) : Bool :=
  isWhiteSpace c || (0x1C ≤ c.number && c.number ≤ 0x1F)

def trim (drop : CodePoint → Bool) (t : Text) : Text :=
  ((t.dropWhile drop).reverse.dropWhile drop).reverse

end CardGrove.Text
