import NoteVault.Text.Scan

/-! Code in markdown, which holds neither tags nor links. -/

namespace NoteVault.Code

/-- The rest of a text after the next fence. -/
def afterFence? : Text → Option Text
  | '`' :: '`' :: '`' :: s => some s
  | _ :: s => afterFence? s
  | [] => none

/-- The rest after a code span on one line, behind its opening backtick. -/
def afterSpan? (s : Text) : Option Text :=
  match s.dropWhile fun c => c != '`' && c != '\n' with
  | '`' :: rest => some rest
  | _ => none

/-- The rest after a piece of code at the beginning of a text: a fenced block or a span. -/
def after? : Text → Option Text
  | '`' :: '`' :: '`' :: s =>
    match afterFence? s with
    | some rest => some rest
    | none => some ('`' :: s)
  | '`' :: s => afterSpan? s
  | _ => none

/-- A text with a space in the place of every piece of code. -/
def blankOut (s : Text) : Text := Text.replaceMatches after? [' '] s

end NoteVault.Code
