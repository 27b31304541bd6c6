import CardGrove.Client.Host.Address
import CardGrove.Client.Host.Name
import CardGrove.Client.Target.Escape

/-! Hosts of request targets: addresses of four octets, addresses of eight hexadecimal groups in
brackets, and names. -/
namespace CardGrove.Host

def isBracketed (t : Text) : Bool :=
  t.head? = some (.char '[') && t.getLast? = some (.char ']') && 2 ≤ t.length

/-- A host as it is sent, if it can be asked; an empty one can. A name in ASCII is any text, whose
letters become small ones and some of whose characters are escaped; any other name must have a form
in ASCII. -/
def sent? (t : Text) : Option Text :=
  if looksLikeOctets t then if isOctets t then some t else none
  else if isBracketed t then if isZonedGroups (t.drop 1).dropLast then some t else none
  else if t.isAscii then some (Target.escaped Target.isKeptInHost t).toLower
  else (Name.written t.small).toOption

/-- A host as it reads, from how it is sent: if the first part of a name is in Punycode, it is
decoded, and so are the others. -/
def read (t : Text) : Except NameError Text :=
  if Part.opening.isPrefixOf t then Name.read t else .ok t

end CardGrove.Host
