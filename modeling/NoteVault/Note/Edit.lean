import NoteVault.Note.Frontmatter

/-! Edits of the metadata of a note. -/

namespace NoteVault

inductive Edit where
  | set (key : Text) (v : Value)
  | unset (key : Text)
  | clear
  deriving Repr

namespace Edit

def apply (m : Frontmatter) : Edit → Frontmatter
  | .set key v => m.insert key v
  | .unset key => m.erase key
  | .clear => .empty

/-- The metadata after some edits, one after the other. -/
def applyAll (es : List Edit) (m : Frontmatter) : Frontmatter := es.foldl apply m

/-- The value that an edit replaces or removes. -/
def replaced (m : Frontmatter) : Edit → Option Value
  | .set key _ => m.get? key
  | .unset key => m.get? key
  | .clear => none

/-- The values that some edits replace or remove, one after the other. -/
def allReplaced (m : Frontmatter) : List Edit → List (Option Value)
  | [] => []
  | e :: es => e.replaced m :: allReplaced (e.apply m) es

/-- What some edits replace or remove, and the metadata after them. -/
def run (es : List Edit) (m : Frontmatter) : List (Option Value) × Frontmatter :=
  (allReplaced m es, applyAll es m)

end Edit

end NoteVault
