import NoteVault.Uri.Domain.Composition
import NoteVault.Uri.Domain.Direction
import NoteVault.Uri.Domain.Joiner
import NoteVault.Uri.Domain.Mark
import NoteVault.Uri.Domain.Replacement
import NoteVault.Uri.Percent
import NoteVault.Uri.Punycode

/-!
Domain names in letters of all scripts: every character is replaced by what it stands for, labels
in ASCII that stand for others are read, and every label keeps the rules for its script.
-/

namespace NoteVault.Uri.Domain

/-- The ASCII characters that no domain name holds. -/
def isForbidden (c : Char) : Bool :=
  isControl c || " %#/:<>?@[\\]^|".toList.contains c

/-- A text whose characters are replaced and composed. -/
def settled? (s : Text) : Option Text := (s.mapM standsFor?).map fun ts => composed ts.flatten

/-- The label that stands between full stops; behind `xn--` it is written in ASCII. -/
def label? (s : Text) : Option Text :=
  match Text.after? "xn--" s with
  | none => some s
  | some code =>
    if code.isEmpty || Text.endsIn ['-'] code || 2000 < code.length then none
    else (Punycode.decode? code).filter fun t =>
      settled? t = some t && !Text.beginsWith "xn--" t

/-- Whether a label keeps the rules that do not look at the other labels. -/
def isLabel (t : Text) : Bool :=
  !t.any isForbidden && !t.head?.any isCombining && hasSoundJoiners [] t &&
    (t.length ≤ 1000 || t.all fun c => c.toNat < 128)

/-- The labels of a domain name. -/
def ofText? (s : Text) : Option (List Text) :=
  ((settled? s).bind fun t => (Text.pieces (· == '.') t).mapM label?).filter fun labels =>
    labels != [[]] && labels.all isLabel && (!labels.any hasRightToLeft || labels.all isOneWay)

end NoteVault.Uri.Domain
