import CardGrove.Json.Parser

/-! Hosts that are addresses: four octets, or eight hexadecimal groups. -/
namespace CardGrove.Host

/-- Four numbers with points between them, so that only an address is a host. -/
def looksLikeOctets (t : Text) : Bool :=
  let parts := t.splitOn (.char '.')
  parts.length = 4 && parts.all fun part => !part.isEmpty && part.all CodePoint.isDigit

def isOctet (t : Text) : Bool :=
  !t.isEmpty && t.length ≤ 3 && t.all CodePoint.isDigit && (t.length = 1 || t.head? != some (.char '0')) &&
    Decimal.ofDigits (Text.characters t) ≤ 255

def isOctets (t : Text) : Bool :=
  let parts := t.splitOn (.char '.')
  parts.length = 4 && parts.all isOctet

def isGroup (t : Text) : Bool :=
  !t.isEmpty && t.length ≤ 4 && t.all fun c => (Json.Parser.hexDigit? c).isSome

/-- Groups with colons between them: eight, or fewer and one place where groups are left out. Four
octets may stand for the last two groups. -/
def isGroups (t : Text) : Bool :=
  let written := t.splitOn (.char ':')
  let last := written.getLast?.getD []
  let octets := last.contains (.char '.')
  let parts : List Text := if octets then written.dropLast ++ [[.char '0'], [.char '0']] else written
  let inner := parts.tail.dropLast
  let gap := (inner.takeWhile (!·.isEmpty)).length + 1
  let before := parts.take gap
  let after := parts.drop (gap + 1)
  3 ≤ written.length && (!octets || isOctets last) &&
    if inner.all (!·.isEmpty) then parts.length = 8 && parts.all isGroup
    else
      let before := if before = [[]] then [] else before
      let after := if after = [[]] then [] else after
      before.length + after.length ≤ 7 && before.all isGroup && after.all isGroup

def isZonedGroups (t : Text) : Bool :=
  isGroups (t.takeWhile (· != .char '%')) &&
    match t.dropWhile (· != .char '%') with
    | [] => true
    | _ :: zone => !zone.isEmpty && !zone.contains (.char '%')

end CardGrove.Host
