import NoteVault.Text.Blank
import NoteVault.Text.Letter

/-! References to the data of a note. -/

namespace NoteVault

/-- What a reference names: a field of the file, a key of the frontmatter or a formula. -/
inductive Reference where
  | file (field : Text)
  | note (key : Text)
  | formula (key : Text)
  deriving DecidableEq, Repr

namespace Reference

/-- Any text is a reference: without one of the three scopes it is a key of the frontmatter. -/
def ofText (s : Text) : Reference :=
  let t := Text.trim s
  match Text.after? "file." t, Text.after? "note." t, Text.after? "formula." t with
  | some field, _, _ => .file field
  | none, some key, _ => .note key
  | none, none, some key => .formula key
  | none, none, none => .note t

def isPathChar (c : Char) : Bool := Text.isNameChar c || c == '.'

/-- Whether a text is a scope, a point and a path. -/
def isScoped (scope t : Text) : Bool :=
  match Text.after? (scope ++ ['.']) t with
  | some path => !path.isEmpty && path.all isPathChar
  | none => false

/-- Whether a text is a bare name or a path in a scope, with nothing around it. -/
def isToken (t : Text) : Bool :=
  (!t.isEmpty && t.all Text.isNameChar) ||
  isScoped "file" t || isScoped "note" t || isScoped "formula" t

/-- Whether a text can only be meant as a reference. -/
def isReference (s : Text) : Bool := isToken (Text.trim s)

end Reference

end NoteVault
