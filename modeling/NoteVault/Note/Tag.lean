import NoteVault.Text.Scan
import NoteVault.Text.Blank
import NoteVault.Text.Letter

/-! Tags. -/

namespace NoteVault.Tag

/-- A tag as it is compared: trimmed and without the marks `#` in front. -/
def bare (s : Text) : Text := (Text.trim s).dropWhile (· == '#')

def isTagChar (c : Char) : Bool := Text.isNameChar c || c == '/'

/-- A tag behind its mark at the beginning of a text, and what follows it. -/
def marked? : Text → Option (Text × Text)
  | '#' :: s =>
    match s.takeWhile isTagChar with
    | [] => none
    | tag => some (tag, s.dropWhile isTagChar)
  | _ => none

/-- A tag behind a blank, an opening parenthesis or a comma. -/
def separated? : Text → Option (Text × Text)
  | c :: s => if Text.isBlank c || c == '(' || c == ',' then marked? s else none
  | [] => none

/-- The tags written in a text, the first of which may stand at its beginning. -/
def written (s : Text) : List Text :=
  match marked? s with
  | some (tag, rest) => tag :: Text.scan separated? rest
  | none => Text.scan separated? s

/-- A written tag without slashes at its end, unless it is a mere number. -/
def proper? (s : Text) : Option Text :=
  let tag := Text.dropTail (· == '/') s
  if tag.all Char.isDigit then none else some tag

end NoteVault.Tag
