import NoteVault.Yaml.Token.Scalar
import NoteVault.Yaml.Token.Property

/-!
The tokens of a text. A key of a mapping is recognised only at the `:` behind it, so the places
where a key may have begun are remembered and its tokens are put in there later.
-/

namespace NoteVault.Yaml

/-- A place where a key may have begun. -/
structure KeySpot where
  /-- Whether the text would be wrong if no key began there. -/
  required : Bool
  /-- The number of tokens in front of it. -/
  number : Nat
  mark : Mark

/-- The tokens read so far and the state of the reading. -/
structure TokenReader where
  rest : Text
  mark : Mark := {}
  /-- The tokens, the last one first. -/
  tokens : List Token := []
  indent : Int := -1
  indents : List Int := []
  keyAllowed : Bool := true
  /-- The spot of a key in every open flow collection, the innermost first, and outside of them. -/
  spots : List (Option KeySpot) := [none]
  flow : Nat := 0

namespace TokenReader

variable (r : TokenReader)

def push (t : Token) : TokenReader := { r with tokens := t :: r.tokens }

/-- Puts a token behind the first `n` tokens. -/
def insertAt (n : Nat) (t : Token) : TokenReader :=
  let later := r.tokens.length - n
  { r with tokens := r.tokens.take later ++ t :: r.tokens.drop later }

/-- Skips `n` characters of a line. -/
def skip (n : Nat) : TokenReader := { r with rest := r.rest.drop n, mark := r.mark.skip n }

/-- Continues at a rest that stands on the same line, behind ASCII characters. -/
def moveTo (rest : Text) : TokenReader :=
  { r with rest := rest, mark := r.mark.skip (r.rest.length - rest.length) }

/-- Continues behind a line that ends at a rest. -/
def moveToLine (rest : Text) : TokenReader :=
  match rest with
  | [] => r.moveTo []
  | _ :: rest => { r with rest := rest, mark := r.mark.newLine }

/-- Skips blanks, comments, line ends, and a mark of the order of bytes at the beginning of a
line. -/
def skipBlanks (flow keyAllowed : Bool) (m : Mark) : Text → Bool × Mark × Text
  | [] => (keyAllowed, m, [])
  | c :: s =>
    if c == ' ' || (c == '\t' && (flow || !keyAllowed)) || (m.column = 0 && isByteOrderMark c) then
      skipBlanks flow keyAllowed (m.after c) s
    else if isLineEnd c then skipBlanks flow (keyAllowed || !flow) m.newLine s
    else if c == '#' then skipComment flow keyAllowed (m.after c) s
    else (keyAllowed, m, c :: s)
where
  skipComment (flow keyAllowed : Bool) (m : Mark) : Text → Bool × Mark × Text
    | [] => (keyAllowed, m, [])
    | c :: s =>
      if isLineEnd c then skipBlanks flow (keyAllowed || !flow) m.newLine s
      else skipComment flow keyAllowed (m.after c) s

def toNextToken : TokenReader :=
  let (keyAllowed, mark, rest) := skipBlanks (r.flow != 0) r.keyAllowed r.mark r.rest
  { r with keyAllowed, mark, rest }

/-- Whether a spot is on an earlier line or more than 1024 bytes back. -/
def isStale (k : KeySpot) : Bool :=
  k.mark.line < r.mark.line || k.mark.index + 1024 < r.mark.index

/-- Forgets the stale spots. -/
def dropStaleSpots? : Option TokenReader :=
  let isStale (k : Option KeySpot) : Bool := (k.map r.isStale).getD false
  if r.spots.any fun k => isStale k && (k.map KeySpot.required).getD false then none
  else some { r with spots := r.spots.map fun k => if isStale k then none else k }

/-- Forgets the innermost spot. -/
def dropSpot? : Option TokenReader :=
  match r.spots with
  | some k :: ks => if k.required then none else some { r with spots := none :: ks }
  | _ => some r

/-- Remembers that a key may begin here. -/
def saveSpot? : Option TokenReader :=
  if !r.keyAllowed then some r
  else r.dropSpot?.map fun r =>
    let spot : KeySpot := ⟨r.flow = 0 && r.indent = r.mark.column, r.tokens.length, r.mark⟩
    { r with spots := some spot :: r.spots.drop 1 }

/-- Opens a block collection at a column deeper than the current one, behind `n` tokens. -/
def openBlock (column : Nat) (n : Nat) (t : Token) : TokenReader :=
  if r.flow = 0 && r.indent < column then
    { r.insertAt n t with indents := r.indent :: r.indents, indent := column }
  else r

/-- Closes the block collections that are deeper than a column. -/
def closeBlocks (column : Int) : TokenReader :=
  if r.flow != 0 then r else go r.indents r
where
  go : List Int → TokenReader → TokenReader
    | [], r => r
    | i :: is, r =>
      if column < r.indent then go is { r.push .blockEnd with indent := i, indents := is } else r

/-- A mark between documents or a directive ends everything open. -/
def endBlocks? : Option TokenReader :=
  (r.closeBlocks (-1)).dropSpot?.map fun r => { r with keyAllowed := false }

def endStream? : Option TokenReader :=
  ({ r with mark := if r.mark.column = 0 then r.mark else r.mark.newLine }).endBlocks?

def openFlow? (t : Token) : Option TokenReader :=
  r.saveSpot?.map fun r =>
    { (r.skip 1).push t with spots := none :: r.spots, flow := r.flow + 1, keyAllowed := true }

def closeFlow? (t : Token) : Option TokenReader :=
  r.dropSpot?.map fun r =>
    let spots := if r.flow = 0 then r.spots else r.spots.drop 1
    { (r.skip 1).push t with spots := spots, flow := r.flow - 1, keyAllowed := false }

def readFlowEntry? : Option TokenReader :=
  r.dropSpot?.map fun r => { (r.skip 1).push .flowEntry with keyAllowed := true }

def readBlockEntry? : Option TokenReader :=
  if r.flow = 0 && !r.keyAllowed then none
  else (r.openBlock r.mark.column r.tokens.length .blockSequence).dropSpot?.map fun r =>
    { (r.skip 1).push .blockEntry with keyAllowed := true }

def readKey? : Option TokenReader :=
  if r.flow = 0 && !r.keyAllowed then none
  else (r.openBlock r.mark.column r.tokens.length .blockMapping).dropSpot?.map fun r =>
    { (r.skip 1).push .key with keyAllowed := r.flow = 0 }

/-- The `:` behind a key: the key began at the innermost spot, or at a `?`. -/
def readValue? : Option TokenReader :=
  match r.spots with
  | some k :: ks =>
    let r := (r.insertAt k.number .key).openBlock k.mark.column k.number .blockMapping
    some { (r.skip 1).push .value with spots := none :: ks, keyAllowed := false }
  | _ =>
    if r.flow = 0 && !r.keyAllowed then none
    else
      let r := r.openBlock r.mark.column r.tokens.length .blockMapping
      some { (r.skip 1).push .value with keyAllowed := r.flow = 0 }

/-- Reads a token that may be the beginning of a key. -/
def readWord? (read : TokenReader → Option (Token × TokenReader)) : Option TokenReader := do
  let r ← r.saveSpot?
  let (t, r) ← read { r with keyAllowed := false }
  return r.push t

/-- Reads a scalar that `go` reads behind `n` characters. -/
def readScalar? (plain : Bool) (n : Nat) (go : Mark → Text → Option Reading) (r : TokenReader) :
    Option (Token × TokenReader) :=
  (go (r.mark.skip n) (r.rest.drop n)).map fun x =>
    (.scalar plain x.text,
      { r with rest := x.rest, mark := x.mark, keyAllowed := r.keyAllowed || x.overLine })

def readBlockScalar? (literal : Bool) : Option TokenReader := do
  let r ← r.dropSpot?
  let (t, r) ← readScalar? false 1 (block? literal r.indent) { r with keyAllowed := true }
  return r.push t

def readPlain? : Option TokenReader :=
  r.readWord? fun r => r.readScalar? true 0 (plain? (r.flow != 0) r.indent [] {})

/-- Skips to the next token and closes the block collections that end before it. -/
def prepared? : Option TokenReader :=
  r.toNextToken.dropStaleSpots?.map fun r => r.closeBlocks r.mark.column

/-- Reads the token that begins with the character `c` in front of `s`. -/
def read? (c : Char) (s : Text) : Option TokenReader :=
  let isFlow := r.flow != 0
  if r.mark.column = 0 && c == '%' then do
    let r ← r.endBlocks?
    let (t, rest) ← directive? s
    return (r.moveToLine rest).push t
  else if r.mark.column = 0 && atDocumentMark (c :: s) then
    r.endBlocks?.map fun r => (r.skip 3).push (if c == '-' then .documentStart else .documentEnd)
  else if c == '[' then r.openFlow? .flowSequence
  else if c == '\x7b' then r.openFlow? .flowMapping
  else if c == ']' then r.closeFlow? .flowSequenceEnd
  else if c == '\x7d' then r.closeFlow? .flowMappingEnd
  else if c == ',' then r.readFlowEntry?
  else if c == '-' && atBlank s then r.readBlockEntry?
  else if c == '?' && (isFlow || atBlank s) then r.readKey?
  else if c == ':' && (isFlow || atBlank s) then r.readValue?
  else if c == '*' then
    r.readWord? fun r => (anchorName? s).map fun (name, rest) => (.alias name, r.moveTo rest)
  else if c == '&' then
    r.readWord? fun r => (anchorName? s).map fun (name, rest) => (.anchor name, r.moveTo rest)
  else if c == '!' then
    r.readWord? fun r => (tag? isFlow s).map fun (t, rest) => (t, r.moveTo rest)
  else if c == '|' && !isFlow then r.readBlockScalar? true
  else if c == '>' && !isFlow then r.readBlockScalar? false
  else if c == '\'' then r.readWord? (readScalar? false 1 (singleQuoted? [] {}))
  else if c == '"' then r.readWord? (readScalar? false 1 (doubleQuoted? [] {}))
  else if atBlank (c :: s) || ['#', '|', '>', '%', '@', '`'].contains c then none
  else r.readPlain?

/-- Reads all tokens. -/
def run? (r : TokenReader) : Option (List Token) :=
  match r.prepared? with
  | none => none
  | some p =>
    match p.rest with
    | [] => p.endStream?.map fun p => p.tokens.reverse
    | c :: s =>
      match p.read? c s with
      | none => none
      | some next => if next.rest.length < r.rest.length then next.run? else none
termination_by r.rest.length

end TokenReader

/-- A text without the mark of the order of bytes in front of it. -/
def withoutByteOrderMark : Text → Text
  | c :: s => if isByteOrderMark c then s else c :: s
  | [] => []

/-- The tokens of a text. -/
def tokens? (s : Text) : Option (List Token) :=
  if s.all isAllowed then TokenReader.run? { rest := unifyLines (withoutByteOrderMark s) }
  else none

end NoteVault.Yaml
