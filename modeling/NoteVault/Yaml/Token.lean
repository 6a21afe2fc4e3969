import NoteVault.Text.Utf8
import NoteVault.Text.Basic

/-! The tokens of YAML text, and the characters that tell them apart. -/

namespace NoteVault.Yaml

/-- A token. The parts of tags are bytes, since a tag may write some that are no text. -/
inductive Token where
  | version (major minor : Nat)
  | tagHandle (handle : Text) (lead : Bytes)
  | documentStart
  | documentEnd
  | blockSequence
  | blockMapping
  | blockEnd
  | flowSequence
  | flowSequenceEnd
  | flowMapping
  | flowMappingEnd
  | blockEntry
  | flowEntry
  | key
  | value
  | alias (name : Text)
  | anchor (name : Text)
  | tag (handle : Text) (suffix : Bytes)
  | scalar (plain : Bool) (text : Text)
  deriving DecidableEq, Repr

/-- A place in a text; its index counts bytes. -/
structure Mark where
  index : Nat := 0
  line : Nat := 0
  column : Nat := 0
  deriving DecidableEq, Repr

namespace Mark

/-- The place behind a character of a line. -/
def after (m : Mark) (c : Char) : Mark :=
  { m with index := m.index + (Utf8.encodeChar c).length, column := m.column + 1 }

/-- The place behind `n` ASCII characters of a line. -/
def skip (m : Mark) (n : Nat) : Mark := { m with index := m.index + n, column := m.column + n }

/-- The place behind a line end. -/
def newLine (m : Mark) : Mark := ⟨m.index + 1, m.line + 1, 0⟩

end Mark

/-- The characters that may stand in YAML text at all. -/
def isAllowed (c : Char) : Bool :=
  let n := c.toNat
  n == 0x09 || n == 0x0A || n == 0x0D || (0x20 ≤ n && n ≤ 0x7E) || n == 0x85 ||
  (0xA0 ≤ n && n ≤ 0xD7FF) || (0xE000 ≤ n && n ≤ 0xFFFD) || (0x10000 ≤ n && n ≤ 0x10FFFF)

/-- A text in which every line ends in one character: a line feed, or a Unicode separator. -/
def unifyLines : Text → Text
  | '\r' :: '\n' :: s => '\n' :: unifyLines s
  | '\r' :: s => '\n' :: unifyLines s
  | c :: s => (if c.toNat = 0x85 then '\n' else c) :: unifyLines s
  | [] => []

/-- The mark of the order of bytes, which may stand at the beginning of a line. -/
def isByteOrderMark (c : Char) : Bool := c.toNat == 0xFEFF

def isSpaceOrTab (c : Char) : Bool := c == ' ' || c == '\t'

/-- The line ends of a text with unified lines. -/
def isLineEnd (c : Char) : Bool := c == '\n' || c.toNat == 0x2028 || c.toNat == 0x2029

/-- Whether a text is at its end, at a line end or at a blank. -/
def atBlank : Text → Bool
  | [] => true
  | c :: _ => isSpaceOrTab c || isLineEnd c

/-- Whether a text is at its end or at a line end. -/
def atLineEnd : Text → Bool
  | [] => true
  | c :: _ => isLineEnd c

/-- What is left behind a comment, if the text begins with one. -/
def afterComment (s : Text) : Text :=
  match s with
  | '#' :: _ => s.dropWhile fun c => !isLineEnd c
  | _ => s

/-- The characters of anchors and of the names of handles. -/
def isWordChar (c : Char) : Bool := c.isAlphanum || c == '_' || c == '-'

/-- Whether a line that begins here is a mark between documents. -/
def atDocumentMark (s : Text) : Bool :=
  match Text.after? "---" s, Text.after? "..." s with
  | some r, _ => atBlank r
  | none, some r => atBlank r
  | none, none => false

end NoteVault.Yaml
