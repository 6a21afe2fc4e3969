import NoteVault.Text.Quoted
import NoteVault.Text.Scan

/-! Links between notes. -/

namespace NoteVault.Link

/-- A text without `lead` in front, if it begins with it. -/
def without (lead s : Text) : Text := (Text.after? lead s).getD s

/-- A text without `tail` at its end, if it ends in it. -/
def withoutEnd (tail s : Text) : Text := (Text.before? tail s).getD s

/-- What stands in front of the first `c`. -/
def upTo (c : Char) (s : Text) : Text := ((Text.cut? c s).map Prod.fst).getD s

/-- The target of a link as it is compared: no quotes, brackets, alias, heading or `.md`. -/
def target (s : Text) : Text :=
  let t := Text.trim (Text.stripQuotes s)
  let t := withoutEnd "]]" (without "[[" (without "!" t))
  let t := Text.trim (upTo '#' (upTo '|' t))
  Text.trim (if Text.endsIn ".md" (Text.lower t) then t.take (t.length - 3) else t)

/-- A link `[[target]]` at the beginning of a text: its target and what follows it. -/
def wikiLink? : Text → Option (Text × Text)
  | '[' :: '[' :: s =>
    let isInner (c : Char) : Bool := c != '[' && c != ']'
    match s.takeWhile isInner, s.dropWhile isInner with
    | c :: inner, ']' :: ']' :: rest => some (c :: inner, rest)
    | _, _ => none
  | _ => none

/-- The targets written between double brackets. -/
def wikiTargets (s : Text) : List Text := Text.scan wikiLink? s

/-- Whether the end of a link to a file may stand here, and what follows it. -/
def afterFile? (s : Text) : Option Text :=
  match s with
  | '#' :: r =>
    match r.dropWhile (· != ')') with
    | ')' :: rest => some rest
    | _ => none
  | '>' :: ')' :: rest => some rest
  | ')' :: rest => some rest
  | _ => none

/-- The characters that a file name in a link cannot hold. -/
def endsName (c : Char) : Bool := c == ')' || c == '<' || c == '>' || Text.isBlank c

/--
The shortest file name that ends in `.md` where a link may end; `seen` is the part of the name
that is already read, its last character first.
-/
def fileName? (seen : Text) : Text → Option (Text × Text)
  | [] => none
  | c :: s =>
    match (if seen.isEmpty then none else (Text.after? ".md" (c :: s)).bind afterFile?) with
    | some rest => some (seen.reverse ++ ".md", rest)
    | none => if endsName c then none else fileName? (c :: seen) s

/-- A link `[label](file.md)` at the beginning of a text: its file and what follows it. -/
def fileLink? : Text → Option (Text × Text)
  | '[' :: s =>
    match s.dropWhile (· != ']') with
    | ']' :: '(' :: '<' :: r => fileName? [] r
    | ']' :: '(' :: r => fileName? [] r
    | _ => none
  | _ => none

/-- The markdown files that links of a text lead to. -/
def fileTargets (s : Text) : List Text := Text.scan fileLink? s

end NoteVault.Link
