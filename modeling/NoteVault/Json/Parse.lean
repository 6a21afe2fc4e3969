import NoteVault.Json.Node
import NoteVault.Number.Decimal
import NoteVault.Text.Utf8
import NoteVault.Text.Digit

/-! JSON documents from text and from bytes. -/

namespace NoteVault.Json

/-- A text in which some bytes may be broken. -/
abbrev Source := List Utf8.Piece

def isSpace (c : Char) : Bool := c == ' ' || c == '\n' || c == '\t' || c == '\r'

def skip : Source → Source
  | .char c :: s => if isSpace c then skip s else .char c :: s
  | s => s

def isNumeralChar (c : Char) : Bool := c.isDigit || "+-.eE".toList.contains c

/-- The longest run of characters of numerals, and the rest. -/
def numeral : Source → Text × Source
  | .char c :: s =>
    if isNumeralChar c then
      let (t, s) := numeral s
      (c :: t, s)
    else ([], .char c :: s)
  | s => ([], s)

/-- Whether a numeral begins with digits, without a superfluous zero, and has digits after its
point. -/
def isStrict (t : Text) : Bool :=
  let t := match t with
    | '-' :: r => r
    | _ => t
  let whole := t.takeWhile Char.isDigit
  let leading := !whole.isEmpty && !(whole.head? == some '0' && whole.length > 1)
  match t.dropWhile Char.isDigit with
  | '.' :: c :: _ => leading && c.isDigit
  | ['.'] => false
  | _ => leading

/-- Integers of 64 bits, signed or not, are kept; other numbers become doubles. -/
def numberOf? (d : Decimal) (isWhole : Bool) : Option Number :=
  let n : Int := if d.negative then -d.digits else d.digits
  if isWhole && isInteger64 n && !(d.negative && d.digits == 0) then some (.int n)
  else d.toBinary64?.map .real

/-- Reads a numeral, whose number may be unreadable. -/
def number? (s : Source) : Option (Node × Source) :=
  let (t, s) := numeral s
  if isStrict t then
    (Decimal.ofText? t).map fun d =>
      (.number (numberOf? d (t.all fun c => c.isDigit || c == '-')), s)
  else none

/-- The number that four hexadecimal digits write. -/
def hex4? (a b c d : Char) : Option Nat := Text.inBase? 16 [a, b, c, d]

/-- The character that stands for a one letter escape. -/
def unescape? : Char → Option Char
  | '"' => some '"'
  | '\\' => some '\\'
  | '/' => some '/'
  | 'b' => some (Char.ofNat 8)
  | 'f' => some (Char.ofNat 12)
  | 'n' => some '\n'
  | 'r' => some '\r'
  | 't' => some '\t'
  | _ => none

/-- What stands in a quoted text: a character, a unit of 16 bits, or broken bytes. -/
inductive Mark where
  | char (c : Char)
  | unit (n : Nat)
  | broken
  deriving DecidableEq, Repr

/-- The text that marks write. A surrogate counts only as half of a pair. -/
def textOf? : List Mark → Option Text
  | [] => some []
  | .char c :: ms => (textOf? ms).map (c :: ·)
  | .broken :: _ => none
  | .unit n :: ms =>
    if 0xD800 ≤ n && n < 0xDC00 then
      match ms with
      | .unit m :: ms =>
        if 0xDC00 ≤ m && m < 0xE000 then
          (textOf? ms).map (Char.ofNat (0x10000 + (n - 0xD800) * 0x400 + (m - 0xDC00)) :: ·)
        else none
      | _ => none
    else if 0xDC00 ≤ n && n < 0xE000 then none
    else (textOf? ms).map (Char.ofNat n :: ·)

def consFirst {α β : Type} (a : α) (p : List α × β) : List α × β := (a :: p.1, p.2)

/-- Reads the marks of a quoted text after its opening quote, and its closing quote. -/
def marks? : Source → Option (List Mark × Source)
  | .char '"' :: s => some ([], s)
  | .char '\\' :: .char 'u' :: .char a :: .char b :: .char c :: .char d :: s =>
    match hex4? a b c d with
    | some n => (marks? s).map (consFirst (.unit n))
    | none => none
  | .char '\\' :: .char c :: s =>
    match unescape? c with
    | some e => (marks? s).map (consFirst (.char e))
    | none => none
  | .char c :: s =>
    if c.toNat < 32 || c == '\\' then none else (marks? s).map (consFirst (.char c))
  | .broken :: s => (marks? s).map (consFirst .broken)
  | [] => none

/-- Reads a quoted text, which may be unreadable, after its opening quote. -/
def quotedRest? (s : Source) : Option (Option Text × Source) :=
  (marks? s).map fun (ms, s) => (textOf? ms, s)

/-- The rest of a source that begins with a word. -/
def afterWord? : Text → Source → Option Source
  | [], s => some s
  | c :: w, .char d :: s => if c = d then afterWord? w s else none
  | _ :: _, _ => none

def word? (s : Source) : Option (Node × Source) :=
  ((afterWord? "null".toList s).map fun r => (.null, r)) <|>
  ((afterWord? "true".toList s).map fun r => (.bool true, r)) <|>
  ((afterWord? "false".toList s).map fun r => (.bool false, r))

mutual

/-- Reads one part. -/
def node? : (fuel : Nat) → Source → Option (Node × Source)
  | 0, _ => none
  | fuel + 1, s =>
    match skip s with
    | .char '"' :: r => (quotedRest? r).map fun (t, r) => (.text t, r)
    | .char '[' :: r =>
      match skip r with
      | .char ']' :: r => some (.list [], r)
      | r => (items? fuel r).map fun (ns, r) => (.list ns, r)
    | .char '\x7b' :: r =>
      match skip r with
      | .char '\x7d' :: r => some (.record [], r)
      | r => (members? fuel r).map fun (ms, r) => (.record ms, r)
    | s => (word? s).or (number? s)

/-- Reads the items of a list and its closing bracket. -/
def items? : (fuel : Nat) → Source → Option (List Node × Source)
  | 0, _ => none
  | fuel + 1, s =>
    match node? fuel s with
    | none => none
    | some (n, r) =>
      match skip r with
      | .char ']' :: r => some ([n], r)
      | .char ',' :: r => (items? fuel r).map (consFirst n)
      | _ => none

/-- Reads the members of a record and its closing brace. -/
def members? : (fuel : Nat) → Source → Option (List (Option Text × Node) × Source)
  | 0, _ => none
  | fuel + 1, s =>
    match skip s with
    | .char '"' :: r =>
      match quotedRest? r with
      | none => none
      | some (k, r) =>
        match skip r with
        | .char ':' :: r =>
          match node? fuel r with
          | none => none
          | some (n, r) =>
            match skip r with
            | .char '\x7d' :: r => some ([(k, n)], r)
            | .char ',' :: r => (members? fuel r).map (consFirst (k, n))
            | _ => none
        | _ => none
    | _ => none

end

/-- The document that a source writes. -/
def document? (s : Source) : Option Node :=
  match node? (2 * s.length + 1) s with
  | some (n, r) => if (skip r).isEmpty then some n else none
  | none => none

/-- The document that some bytes write. -/
def ofBytes? (bs : Bytes) : Option Node := document? (Utf8.piecesOf bs)

/-- The value that a text writes. -/
def parse? (t : Text) : Option Value := (document? (t.map .char)).bind Node.value?

end NoteVault.Json
