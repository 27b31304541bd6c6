import CardGrove.Client.Target

/-! Where an answer sends a client: to the same host, the same query and another path. A host and a
socket are named as they were sent if they are well formed; otherwise they are named as they read,
without brackets, and only beside a scheme with a socket of its own. -/
namespace CardGrove.Target

def ownAddress : Text := "http://test"

inductive MovedError where
  | unknownScheme
  | unnamedSocket
  deriving DecidableEq, Repr

def schemeSocket? (scheme : Text) : Option Int :=
  if scheme = "http" || scheme = "ws" then some 80
  else if scheme = "https" || scheme = "wss" then some 443
  else none

/-- The socket that is sent: the one that is named, unless it is that of the scheme. A scheme with
capitals has none here. -/
def sentSocket? (t : Target) : Option Int :=
  (socketNumber? t.socket).filter fun n => schemeSocket? t.scheme != some n

def colonAnd (n : Int) : Text := .char ':' :: Text.ofInt n

def isNamePoint (c : CodePoint) : Bool :=
  isLetter c || c.isDigit || ("-._~%!$&'()*+,;=" : Text).contains c

def isGroupPoint (c : CodePoint) : Bool :=
  (Json.Parser.hexDigit? c).isSome || c == .char ':' || c == .char '.'

def isPlainHost (host : Text) : Bool :=
  if Host.isBracketed host then (host.drop 1).dropLast.all isGroupPoint else host.all isNamePoint

def greatestSocket : Int := 65535

def isPlainSocket (n : Int) : Bool := 0 ≤ n && n ≤ greatestSocket

def plainHost (host : Text) : Text :=
  if Host.isBracketed host then (host.drop 1).dropLast
  else
    match Host.read host with
    | .ok host => host
    | .error _ => host

def movedHost (scheme host : Text) (socket : Option Int) : Except MovedError Text :=
  if isPlainHost host && socket.all isPlainSocket then
    .ok (host ++ (socket.map colonAnd).getD [])
  else
    match schemeSocket? scheme, socket with
    | none, _ => .error .unknownScheme
    | some _, none => .error .unnamedSocket
    | some own, some n => .ok (plainHost host ++ if n = own then [] else colonAnd n)

def movedAddress (t : Target) : Except MovedError Text :=
  if t.isAbsolute then
    let scheme := t.scheme.toLower
    (movedHost scheme ((Host.sent? t.host).getD []) t.sentSocket?).map (scheme ++ "://" ++ ·)
  else .ok ownAddress

def moved (t : Target) (path : Text) : Except MovedError Text := do
  let address ← t.movedAddress
  let query := match t.query with
    | none | some [] => []
    | some q => .char '?' :: escaped isKeptInQuery q
  return escaped isKeptInLocation (address ++ path ++ query)

end CardGrove.Target
