import NoteVault.Yaml.Token
import NoteVault.Text.Digit

/-!
Scalars: plain, quoted and block. A reader starts behind what announces the scalar and gives its
text, the place behind it and the rest.
-/

namespace NoteVault.Yaml

/-- The blanks and line ends between two words of a scalar that may go over several lines. -/
structure Gap where
  blanks : Text := []
  /-- The first line end, or nothing in place of an escaped one. -/
  first : Option Text := none
  more : Text := []

namespace Gap

def isEmpty (g : Gap) : Bool := g.blanks.isEmpty && g.first.isNone

/-- The gap with one more blank; behind a line end it does not count. -/
def blank (g : Gap) (c : Char) : Gap :=
  if g.first.isSome then g else { g with blanks := g.blanks ++ [c] }

/-- The gap with one more line end. -/
def lineEnd (g : Gap) (c : Char) : Gap :=
  if g.first.isSome then { g with more := g.more ++ [c] } else { first := some [c] }

/-- What a gap adds to the text: a single line feed is folded into a space. -/
def folded (g : Gap) : Text :=
  match g.first with
  | none => g.blanks
  | some ['\n'] => if g.more.isEmpty then [' '] else g.more
  | some first => first ++ g.more

end Gap

/-- What a reader of a scalar has read. -/
structure Reading where
  text : Text
  mark : Mark
  rest : Text
  /-- Whether a line end was the last thing read before a plain scalar ended. -/
  overLine : Bool := false

/-- Reads a text in single quotes, in which a quote is written twice. -/
def singleQuoted? (done : Text) (g : Gap) (m : Mark) : Text → Option Reading
  | [] => none
  | c :: s =>
    if isSpaceOrTab c then singleQuoted? done (g.blank c) (m.after c) s
    else if isLineEnd c then singleQuoted? done (g.lineEnd c) m.newLine s
    else if m.column = 0 && atDocumentMark (c :: s) then none
    else
      let done := done ++ g.folded
      if c = '\'' then
        match s with
        | '\'' :: r => singleQuoted? (done ++ ['\'']) {} (m.skip 2) r
        | _ => some ⟨done, m.skip 1, s, false⟩
      else singleQuoted? (done ++ [c]) {} (m.after c) s

/-- The character that a one letter escape stands for. -/
def escape? (c : Char) : Option Char :=
  match c with
  | '0' => some (Char.ofNat 0)
  | 'a' => some (Char.ofNat 7)
  | 'b' => some (Char.ofNat 8)
  | 't' => some '\t'
  | '\t' => some '\t'
  | 'n' => some '\n'
  | 'v' => some (Char.ofNat 11)
  | 'f' => some (Char.ofNat 12)
  | 'r' => some '\r'
  | 'e' => some (Char.ofNat 27)
  | ' ' => some ' '
  | '"' => some '"'
  | '/' => some '/'
  | '\\' => some '\\'
  | 'N' => some (Char.ofNat 0x85)
  | '_' => some (Char.ofNat 0xA0)
  | 'L' => some (Char.ofNat 0x2028)
  | 'P' => some (Char.ofNat 0x2029)
  | _ => none

/-- The character whose code point hexadecimal digits write; surrogates are not characters. -/
def codePoint? (digits : Text) : Option Char :=
  (Text.inBase? 16 digits).bind fun n =>
    if h : n.isValidChar then some (Char.ofNatAux n h) else none

/-- Reads a text in double quotes, with its escapes. -/
def doubleQuoted? (done : Text) (g : Gap) (m : Mark) : Text → Option Reading
  | [] => none
  | '\\' :: 'x' :: a :: b :: s =>
    (codePoint? [a, b]).bind fun c => doubleQuoted? (done ++ g.folded ++ [c]) {} (m.skip 4) s
  | '\\' :: 'u' :: a :: b :: c :: d :: s =>
    (codePoint? [a, b, c, d]).bind fun c =>
      doubleQuoted? (done ++ g.folded ++ [c]) {} (m.skip 6) s
  | '\\' :: 'U' :: a :: b :: c :: d :: e :: f :: i :: j :: s =>
    (codePoint? [a, b, c, d, e, f, i, j]).bind fun c =>
      doubleQuoted? (done ++ g.folded ++ [c]) {} (m.skip 10) s
  | '\\' :: c :: s =>
    if isLineEnd c then doubleQuoted? (done ++ g.folded) { first := some [] } m.newLine s
    else (escape? c).bind fun c => doubleQuoted? (done ++ g.folded ++ [c]) {} (m.skip 2) s
  | c :: s =>
    if isSpaceOrTab c then doubleQuoted? done (g.blank c) (m.after c) s
    else if isLineEnd c then doubleQuoted? done (g.lineEnd c) m.newLine s
    else if m.column = 0 && atDocumentMark (c :: s) then none
    else if c = '"' then some ⟨done ++ g.folded, m.skip 1, s, false⟩
    else doubleQuoted? (done ++ g.folded ++ [c]) {} (m.after c) s

def isFlowMark (c : Char) : Bool :=
  c == ',' || c == '[' || c == ']' || c == '\x7b' || c == '\x7d'

/--
Reads a plain scalar that must be indented deeper than `indent` outside of flow collections. It
ends before a comment, a mark between documents, an indicator, or a line indented less; what
stands between its last word and there is skipped.
-/
def plain? (flow : Bool) (indent : Int) (done : Text) (g : Gap) (m : Mark) : Text → Option Reading
  | [] => some ⟨done, m, [], g.first.isSome⟩
  | c :: s =>
    if isSpaceOrTab c then
      if g.first.isSome && (m.column : Int) ≤ indent && c == '\t' then none
      else plain? flow indent done (g.blank c) (m.after c) s
    else if isLineEnd c then plain? flow indent done (g.lineEnd c) m.newLine s
    else if !g.isEmpty && !flow && (m.column : Int) ≤ indent then
      some ⟨done, m, c :: s, g.first.isSome⟩
    else if m.column = 0 && atDocumentMark (c :: s) then some ⟨done, m, c :: s, g.first.isSome⟩
    else if !g.isEmpty && c == '#' then some ⟨done, m, c :: s, g.first.isSome⟩
    else if flow && c == ':' && (match s with
        | d :: _ => isFlowMark d || d == '?'
        | [] => false) then none
    else if (c == ':' && atBlank s) || (flow && isFlowMark c) then
      some ⟨done, m, c :: s, g.first.isSome⟩
    else plain? flow indent (done ++ g.folded ++ [c]) {} (m.after c) s

/-- What happens to the line ends at the end of a block scalar. -/
inductive Chomping where
  | strip
  | clip
  | keep
  deriving DecidableEq, Repr

/--
Skips the indentation and empty lines before a line of a block scalar. Gives the indentation,
which the deepest of these lines sets if it is still 0, and the line ends.
-/
def blockGap? (parent : Int) (indent deepest : Nat) (breaks : Text) (m : Mark) :
    Text → Option (Nat × Text × Mark × Text)
  | c :: s =>
    let free := indent = 0 || m.column < indent
    if free && c == ' ' then blockGap? parent indent deepest breaks (m.skip 1) s
    else
      let deepest := max deepest m.column
      if free && c == '\t' then none
      else if isLineEnd c then blockGap? parent indent deepest (breaks ++ [c]) m.newLine s
      else some (settled deepest, breaks, m, c :: s)
  | [] => some (settled (max deepest m.column), breaks, m, [])
where
  settled (deepest : Nat) : Nat :=
    if indent = 0 then max (max deepest (parent + 1).toNat) 1 else indent

/-- The lines of a block scalar that are read so far. -/
structure BlockText where
  done : Text := []
  /-- The line end behind the last line, and those behind it. -/
  last : Text := []
  more : Text := []
  /-- Whether the last line began with a blank, so that its line end is not folded. -/
  spaced : Bool := false

/-- The text with another line, of which `c` is the first character. -/
def BlockText.addLine (b : BlockText) (literal : Bool) (c : Char) (content last more : Text) :
    BlockText :=
  let spaced := isSpaceOrTab c
  let gap :=
    if !literal && b.last == ['\n'] && !b.spaced && !spaced then
      if b.more.isEmpty then [' '] else b.more
    else b.last ++ b.more
  ⟨b.done ++ gap ++ content, last, more, spaced⟩

/-- Reads the lines of a block scalar that stand at its indentation. -/
def blockLines? (literal : Bool) (parent : Int) (indent : Nat) (b : BlockText) (m : Mark)
    (s : Text) : Option (BlockText × Mark × Text) :=
  match s with
  | [] => some (b, m, [])
  | c :: r =>
    if m.column != indent then some (b, m, c :: r)
    else
      let content := (c :: r).takeWhile fun c => !isLineEnd c
      let m := content.foldl Mark.after m
      let (last, m, rest) : Text × Mark × Text :=
        match (c :: r).dropWhile fun c => !isLineEnd c with
        | e :: rest => ([e], m.newLine, rest)
        | [] => ([], m, [])
      match blockGap? parent indent 0 [] m rest with
      | none => none
      | some (_, more, m, rest) =>
        if _h : rest.length < (c :: r).length then
          blockLines? literal parent indent (b.addLine literal c content last more) m rest
        else none
termination_by s.length
decreasing_by exact _h

/-- The indicators of a block scalar: chomping and depth of indentation, in either order. -/
def blockHeader? : Text → Option (Chomping × Nat × Text)
  | '+' :: s => (depth? s).map fun (n, r) => (.keep, n, r)
  | '-' :: s => (depth? s).map fun (n, r) => (.strip, n, r)
  | s =>
    (depth? s).map fun (n, r) =>
      match r with
      | '+' :: t => if n = 0 then (.clip, n, r) else (.keep, n, t)
      | '-' :: t => if n = 0 then (.clip, n, r) else (.strip, n, t)
      | _ => (.clip, n, r)
where
  depth? : Text → Option (Nat × Text)
    | c :: s =>
      if c == '0' then none
      else if c.isDigit then some (c.toNat - '0'.toNat, s)
      else some (0, c :: s)
    | [] => some (0, [])

/-- Reads a block scalar behind its indicator. -/
def block? (literal : Bool) (parent : Int) (m : Mark) (s : Text) : Option Reading := do
  let (chomping, depth, r) ← blockHeader? s
  let r := afterComment (r.dropWhile isSpaceOrTab)
  let (m, r) ← match r with
    | [] => some (m.skip (s.length - r.length), [])
    | c :: t => if isLineEnd c then some ((m.skip (s.length - r.length)).newLine, t) else none
  let indent := if depth = 0 then 0 else (max parent 0).toNat + depth
  let (indent, more, m, r) ← blockGap? parent indent 0 [] m r
  let (b, m, r) ← blockLines? literal parent indent { more := more } m r
  let text := match chomping with
    | .strip => b.done
    | .clip => b.done ++ b.last
    | .keep => b.done ++ b.last ++ b.more
  return ⟨text, m, r, false⟩

end NoteVault.Yaml
