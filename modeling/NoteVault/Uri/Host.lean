import NoteVault.Uri.Domain
import NoteVault.Uri.Ipv4
import NoteVault.Uri.Ipv6

/-! Hosts: names and addresses. -/

namespace NoteVault.Uri

/-- Who answers for a URI. -/
inductive Host where
  | name (text : Text)
  | v4 (address : Nat)
  | v6 (groups : List Nat)
  deriving DecidableEq, Repr

namespace Host

def toText : Host → Text
  | .name text => text
  | .v4 address => Ipv4.toText address
  | .v6 groups => '[' :: Ipv6.toText groups ++ [']']

/-- The host that labels name: an address, if the last one that is not empty is a number. -/
def ofLabels? (labels : List Text) : Option Host :=
  let parts := if 1 < labels.length && labels.getLast? = some [] then labels.dropLast else labels
  if parts.getLast?.any Ipv4.isNumeric then (Ipv4.ofParts? parts).map .v4
  else some (.name (Text.join ['.'] labels))

/-- The host that a domain name names, with bytes written out in it. -/
def ofDomain? (s : Text) : Option Host :=
  ((Utf8.decode? (unescaped s)).bind Domain.ofText?).bind ofLabels?

/-- The characters that no name holds. -/
def isForbidden (c : Char) : Bool := "\x00\t\n\r #/:<>?@[\\]^|".toList.contains c

/-- The host of any other name, which stays as it is. -/
def ofName? (s : Text) : Option Host :=
  if s.any isForbidden then none else some (.name (escaped isNeverPlain s))

/-- The host that a text writes: an address in brackets, or a domain name or another name. -/
def ofText? (isDomain : Bool) (s : Text) : Option Host :=
  match s with
  | '[' :: r => ((Text.before? [']'] r).bind Ipv6.ofText?).map .v6
  | _ => if isDomain then ofDomain? s else ofName? s

end Host

end NoteVault.Uri
