import NoteVault.Yaml.Token
import NoteVault.Number.Decimal
import NoteVault.Text.Digit
import NoteVault.Text.Utf8

/-!
Tags, anchors and directives. A reader gives its token and the rest; all of them stay on a line.
-/

namespace NoteVault.Yaml

/-- The name of an anchor or alias, behind its indicator. -/
def anchorName? (s : Text) : Option (Text × Text) :=
  let name := s.takeWhile isWordChar
  let rest := s.dropWhile isWordChar
  let ends := atBlank rest || match rest with
    | c :: _ => ['?', ':', ',', ']', '\x7d', '%', '@', '`'].contains c
    | [] => true
  if name.isEmpty || !ends then none else some (name, rest)

/-- The characters of a tag; a tag in angle brackets may hold those of flow collections too. -/
def isTagChar (verbatim : Bool) (c : Char) : Bool :=
  isWordChar c || [';', '/', '?', ':', '@', '&', '=', '+', '$', '.', '%', '!', '~', '*', '\'', '(',
    ')'].contains c || (verbatim && (c == ',' || c == '[' || c == ']'))

/-- How many bytes a first byte announces. -/
def announced? (b : Nat) : Option Nat :=
  if b < 0x80 then some 1
  else if b < 0xC0 then none
  else if b < 0xE0 then some 2
  else if b < 0xF0 then some 3
  else if b < 0xF8 then some 4
  else none

/-- The byte that `%` and two hexadecimal digits write. -/
def percentByte? : Text → Option (Nat × Text)
  | '%' :: a :: b :: s => (Text.inBase? 16 [a, b]).map fun n => (n, s)
  | _ => none

/-- Reads `n` bytes that continue a sequence. -/
def continued? : (n : Nat) → Text → Option (Bytes × Text)
  | 0, s => some ([], s)
  | n + 1, s =>
    match percentByte? s with
    | none => none
    | some (b, s) =>
      if 0x80 ≤ b && b < 0xC0 then
        (continued? n s).map fun (bs, s) => (UInt8.ofNat b :: bs, s)
      else none

/-- Reads the bytes that the first of them announces. -/
def percentBytes? (s : Text) : Option (Bytes × Text) :=
  match percentByte? s with
  | none => none
  | some (b, s) =>
    (announced? b).bind fun n => (continued? (n - 1) s).map fun (bs, s) => (UInt8.ofNat b :: bs, s)

/-- The bytes of the characters of a tag, in which `%` writes a byte. -/
def tagBytes? (verbatim : Bool) (s : Text) : Option (Bytes × Text) :=
  match s with
  | [] => some ([], [])
  | c :: r =>
    if !isTagChar verbatim c then some ([], c :: r)
    else if c != '%' then
      (tagBytes? verbatim r).map fun (bs, rest) => (Utf8.encode [c] ++ bs, rest)
    else
      match percentBytes? (c :: r) with
      | none => none
      | some (bs, rest) =>
        if rest.length ≤ r.length then
          (tagBytes? verbatim rest).map fun (cs, rest) => (bs ++ cs, rest)
        else none
termination_by s.length

/-- The bytes in front of the first zero. -/
def untilZero (bs : Bytes) : Bytes := bs.takeWhile (· != 0)

/-- A handle: `!`, and perhaps a name and another `!`. -/
def handle? : Text → Option (Text × Text)
  | '!' :: s =>
    let name := s.takeWhile isWordChar
    match s.dropWhile isWordChar with
    | '!' :: rest => some ('!' :: name ++ ['!'], rest)
    | rest => some ('!' :: name, rest)
  | _ => none

/-- Whether a handle has two marks, so that a suffix follows it. -/
def isNamedHandle (h : Text) : Bool := h.length > 1 && h.getLast? == some '!'

/-- A tag in angle brackets, behind the opening one. -/
def verbatimTag? (s : Text) : Option (Token × Text) :=
  match tagBytes? true s with
  | some (b :: bs, '>' :: rest) => some (.tag [] (untilZero (b :: bs)), rest)
  | _ => none

/-- A tag with a handle, behind the mark that begins it. A tag of which nothing is left is the tag `!`. -/
def handledTag? (s : Text) : Option (Token × Text) :=
  match handle? ('!' :: s) with
  | none => none
  | some (h, r) =>
    match tagBytes? false r with
    | none => none
    | some (bs, rest) =>
      if isNamedHandle h then
        if bs.isEmpty then none else some (.tag h (untilZero bs), rest)
      else
        let suffix := untilZero (Utf8.encode (h.drop 1) ++ bs)
        some (if suffix.isEmpty then .tag [] (Utf8.encode ['!']) else .tag ['!'] suffix, rest)

/-- A tag behind its mark `!`. A blank follows it, or a comma in a flow collection. -/
def tag? (flow : Bool) (s : Text) : Option (Token × Text) :=
  let read := match s with
    | '<' :: s => verbatimTag? s
    | s => handledTag? s
  read.filter fun (_, rest) => atBlank rest || (flow && rest.head? == some ',')

/-- A number of at most nine digits. -/
def versionNumber? (s : Text) : Option (Nat × Text) :=
  let digits := s.takeWhile Char.isDigit
  if digits.isEmpty || digits.length > 9 then none
  else some (Text.digitsValue digits, s.dropWhile Char.isDigit)

/-- The version that a directive gives. -/
def version? (s : Text) : Option (Token × Text) :=
  match versionNumber? s with
  | some (major, '.' :: r) =>
    (versionNumber? r).map fun (minor, rest) => (.version major minor, rest)
  | _ => none

/-- The handle and the prefix that a directive gives, with blanks between them. -/
def tagHandle? (s : Text) : Option (Token × Text) :=
  match handle? s with
  | none => none
  | some (h, r) =>
    if (h != ['!'] && !isNamedHandle h) || !(r.head?.map isSpaceOrTab).getD false then none
    else
      match tagBytes? true (r.dropWhile isSpaceOrTab) with
      | none => none
      | some (lead, rest) =>
        if lead.isEmpty || !atBlank rest then none else some (.tagHandle h (untilZero lead), rest)

/-- A directive behind its indicator, up to the end of its line, where nothing but a comment may
follow it. -/
def directive? (s : Text) : Option (Token × Text) :=
  let name := s.takeWhile isWordChar
  let r := s.dropWhile isWordChar
  let parameters := r.dropWhile isSpaceOrTab
  let read :=
    if !atBlank r then none
    else if name == "YAML".toList then version? parameters
    else if name == "TAG".toList then tagHandle? parameters
    else none
  match read with
  | none => none
  | some (token, r) =>
    let rest := afterComment (r.dropWhile isSpaceOrTab)
    if atLineEnd rest then some (token, rest) else none

end NoteVault.Yaml
