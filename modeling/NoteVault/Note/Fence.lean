import NoteVault.Text.Basic

/-!
The fences of a frontmatter block: lines of `---` with nothing but spaces and tabs behind. The
first line of a text opens a block, and a later fence closes it.
-/

namespace NoteVault.Fence

def isPadding (c : Char) : Bool := c == ' ' || c == '\t'

/-- The rest of a text behind a line end. -/
def afterLineEnd? : Text → Option Text
  | '\n' :: s => some s
  | '\r' :: '\n' :: s => some s
  | _ => none

/-- What stands behind an opening fence. -/
def opened? (s : Text) : Option Text :=
  (Text.after? "---" s).bind fun r => afterLineEnd? (r.dropWhile isPadding)

/-- What stands behind a closing fence, which the end of the text may end. -/
def closed? (s : Text) : Option Text :=
  (Text.after? "---" s).bind fun r =>
    match r.dropWhile isPadding with
    | [] => some []
    | r => afterLineEnd? r

/-- The text in front of the first line end that a closing fence follows, and the text behind. -/
def untilClosed? (s : Text) : Option (Text × Text) :=
  match (afterLineEnd? s).bind closed? with
  | some body => some ([], body)
  | none =>
    match s with
    | [] => none
    | c :: r => (untilClosed? r).map fun (block, body) => (c :: block, body)

/--
The block between the fences, if there is one, and the text behind it. A fence directly behind the
opening one closes an empty block only if no later fence does.
-/
def split (s : Text) : Option Text × Text :=
  match opened? s with
  | none => (none, s)
  | some r =>
    match untilClosed? r, closed? r with
    | some (block, body), _ => (some block, body)
    | none, some body => (some [], body)
    | none, none => (none, s)

end NoteVault.Fence
