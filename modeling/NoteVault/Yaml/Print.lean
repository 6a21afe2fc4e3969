import NoteVault.Yaml.Token
import NoteVault.Yaml.Scalar
import NoteVault.Json.Print
import NoteVault.Text.Utf8

/-!
YAML text of a record: one entry a line, inner records two steps deeper, lists not deeper than
their keys, and scalars in the plainest style that reads back as the same text.
-/

namespace NoteVault.Yaml.Print

/-- The characters that need no escape: all but controls, the byte order mark and non-characters. -/
def isPrintable (c : Char) : Bool :=
  let n := c.toNat
  n == 0x0A || (0x20 ≤ n && n ≤ 0x7E) || (0xA0 ≤ n && n != 0xFEFF && n != 0xFFFE && n != 0xFFFF)

/-- All characters that break lines, controls included. -/
def isBreak (c : Char) : Bool := isLineEnd c || c == '\r' || c.toNat == 0x85

/-- A neighbour that a plain scalar treats as a blank: none at all, a blank or a line end. -/
def isOutside : Option Char → Bool
  | none => true
  | some c => isSpaceOrTab c || isBreak c

/-- Whether a character cannot begin a plain scalar, given what follows it. -/
def isFirstIndicator (c : Char) (next : Option Char) : Bool :=
  ['#', ',', '[', ']', '\x7b', '\x7d', '&', '*', '!', '|', '>', '\'', '"', '%', '@', '`'].contains c
    || ((c == '?' || c == ':' || c == '-') && isOutside next)

/-- Whether a character cannot stand inside a plain scalar, given its neighbours. -/
def isInnerIndicator (previous : Char) (c : Char) (next : Option Char) : Bool :=
  (c == ':' && isOutside next) || (c == '#' && isOutside (some previous))

def hasInnerIndicator (previous : Char) : Text → Bool
  | [] => false
  | c :: s => isInnerIndicator previous c s.head? || hasInnerIndicator c s

/-- Whether some character of a class is followed by one of another class. -/
def hasPair (p q : Char → Bool) : Text → Bool
  | c :: d :: s => (p c && q d) || hasPair p q (d :: s)
  | _ => false

def isSpace (c : Char) : Bool := c == ' '

/-- Whether a text reads as an indicator or a comment somewhere if it is written plainly. -/
def hasIndicator (t : Text) : Bool :=
  Text.beginsWith "---" t || Text.beginsWith "..." t ||
    match t with
    | [] => false
    | c :: s => isFirstIndicator c s.head? || hasInnerIndicator c s

/-- Whether some character needs an escape, or a blank before a line end would be lost. -/
def needsEscape (t : Text) : Bool := t.any (fun c => !isPrintable c) || hasPair isSpace isBreak t

def isSpaceOrBreak (c : Char) : Bool := isSpace c || isBreak c

/-- Whether a text may be written as it is. -/
def plainAllowed (t : Text) : Bool :=
  !t.isEmpty && !hasIndicator t && !needsEscape t && !t.any isBreak &&
    !(t.head?.map isSpaceOrBreak).getD false && !(t.getLast?.map isSpaceOrBreak).getD false

/-- Whether a text may be written in single quotes. -/
def singleAllowed (t : Text) : Bool := !needsEscape t && !hasPair isBreak isSpace t

/-- Whether a text may be written as a literal block. -/
def literalAllowed (t : Text) : Bool :=
  !t.isEmpty && !needsEscape t && !(t.getLast?.map isSpace).getD false

/-- Whether a text without line feeds would be understood as something else than this text. -/
def isMisread (t : Text) : Bool :=
  match Meaning.ofPlain? t with
  | some (.text _) => Meaning.isPaddedDigits t
  | _ => true

def spaces (n : Nat) : Text := List.replicate n ' '

/-- A text in single quotes; the line behind a separator is indented. -/
def singleQuoted (indent : Nat) (t : Text) : Text := '\'' :: go false t
where
  go (broken : Bool) : Text → Text
    | [] => (if broken then spaces indent else []) ++ ['\'']
    | c :: s =>
      if isSpace c then c :: go broken s
      else if isBreak c then c :: go true s
      else (if broken then spaces indent else []) ++ (if c = '\'' then ['\'', '\''] else [c]) ++
        go false s

def hexUpper (width n : Nat) : Text :=
  (List.range width).reverse.map fun i => (Nat.digitChar (n / pow2 (4 * i) % 16)).toUpper

/-- A character in double quotes. -/
def escaped (c : Char) : Text :=
  let n := c.toNat
  if isPrintable c && !isBreak c && c != '"' && c != '\\' then [c]
  else if n = 0 then "\\0"
  else if n = 7 then "\\a"
  else if n = 8 then "\\b"
  else if n = 9 then "\\t"
  else if n = 10 then "\\n"
  else if n = 11 then "\\v"
  else if n = 12 then "\\f"
  else if n = 13 then "\\r"
  else if n = 27 then "\\e"
  else if c = '"' then "\\\""
  else if c = '\\' then "\\\\"
  else if n = 0x85 then "\\N"
  else if n = 0x2028 then "\\L"
  else if n = 0x2029 then "\\P"
  else if n ≤ 0xFF then '\\' :: 'x' :: hexUpper 2 n
  else if n ≤ 0xFFFF then '\\' :: 'u' :: hexUpper 4 n
  else '\\' :: 'U' :: hexUpper 8 n

def doubleQuoted (t : Text) : Text := '"' :: t.flatMap escaped ++ ['"']

/-- What a literal block says about the line ends at the end of its text. -/
def chompingMark (t : Text) : Text :=
  match t.reverse with
  | [] => ['-']
  | [c] => if isBreak c then ['+'] else ['-']
  | c :: d :: _ => if !isBreak c then ['-'] else if isBreak d then ['+'] else []

/-- A literal block, each of its lines indented. -/
def literal (indent : Nat) (t : Text) : Text :=
  let depthMark : Text := match t with
    | c :: _ => if isSpaceOrBreak c then ['2'] else []
    | [] => []
  '|' :: depthMark ++ chompingMark t ++ '\n' :: go true t
where
  go (broken : Bool) : Text → Text
    | [] => []
    | c :: s =>
      if isBreak c then c :: go true s
      else (if broken then spaces indent else []) ++ c :: go false s

/-- A text in the plainest style that reads back; `indent` is the depth of lines inside of it. -/
def text (indent : Nat) (t : Text) : Text :=
  if t.contains '\n' then if literalAllowed t then literal indent t else doubleQuoted t
  else if !isMisread t && plainAllowed t then t
  else if singleAllowed t then singleQuoted indent t
  else doubleQuoted t

/-- A text that ends its line. -/
def ended (t : Text) : Text := if (t.getLast?.map isBreak).getD false then t else t ++ ['\n']

/-- Whether a key stands on the line of its value: it has one line and at most 128 bytes. -/
def isSimpleKey (k : Text) : Bool := !k.any isBreak && Utf8.size k ≤ 128

/-- A scalar, or an empty collection, if the value is one. -/
def inline? (indent : Nat) : Value → Option Text
  | .null => some "null"
  | .bool b => some (if b then "true" else "false")
  | .number (.int n) => some (Text.ofInt n)
  | .number (.real x) => some (x.toExactText [])
  | .text t => some (text (indent + 2) t)
  | .list [] => some "[]"
  | .record [] => some "\x7b\x7d"
  | _ => none

mutual

/--
The text of a value behind its key or mark, up to the end of its last line. `indent` is the depth of
the collection that holds it. Behind a mark (`compact`) an inner collection begins on the same line.
-/
def value (indent : Nat) (compact : Bool) (v : Value) : Text :=
  match inline? indent v, v with
  | some t, _ => ended (' ' :: t)
  | none, .list items =>
    let depth := if compact then indent + 2 else indent
    (if compact then [' '] else '\n' :: spaces depth) ++ list depth items
  | none, .record fields =>
    let depth := indent + 2
    (if compact then [' '] else '\n' :: spaces depth) ++ record depth fields
  | none, _ => []

/-- The items of a list, the first one at the depth already. -/
def list (depth : Nat) : List Value → Text
  | [] => []
  | v :: vs =>
    '-' :: value depth true v ++ if vs.isEmpty then [] else spaces depth ++ list depth vs

/-- The entries of a record, the first one at the depth already. -/
def record (depth : Nat) : List (Text × Value) → Text
  | [] => []
  | (k, v) :: fs =>
    (if isSimpleKey k then text (depth + 2) k ++ ':' :: value depth false v
      else '?' :: ended (' ' :: text (depth + 2) k) ++ spaces depth ++ ':' :: value depth true v) ++
      if fs.isEmpty then [] else spaces depth ++ record depth fs

end

end NoteVault.Yaml.Print
