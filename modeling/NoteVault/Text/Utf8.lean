import NoteVault.Text.Basic

/-! Texts as bytes in UTF-8. -/

namespace NoteVault

abbrev Bytes := List UInt8

namespace Utf8

/-- The bytes of one character. -/
def encodeChar (c : Char) : List Nat :=
  let n := c.toNat
  if n < 0x80 then [n]
  else if n < 0x800 then [0xC0 + n / 64, 0x80 + n % 64]
  else if n < 0x10000 then [0xE0 + n / 4096, 0x80 + n / 64 % 64, 0x80 + n % 64]
  else [0xF0 + n / 262144, 0x80 + n / 4096 % 64, 0x80 + n / 64 % 64, 0x80 + n % 64]

def encode (t : Text) : Bytes := (t.flatMap encodeChar).map UInt8.ofNat

/-- The number of bytes of a text. -/
def size (t : Text) : Nat := (t.flatMap encodeChar).length

/-- A character, or bytes that begin a character and do not complete one. -/
inductive Piece where
  | char (c : Char)
  | broken
  deriving DecidableEq, Repr

/-- A character of which some bytes are read: its bits so far, how many bytes are missing, and
between which bounds the next one lies. -/
structure Partial where
  bits : Nat
  missing : Nat
  low : Nat := 0x80
  high : Nat := 0xBF

/-- What a first byte begins. -/
inductive Start where
  | piece (p : Piece)
  | more (st : Partial)

def start (b : Nat) : Start :=
  if b < 0x80 then .piece (.char (Char.ofNat b))
  else if b < 0xC2 then .piece .broken
  else if b < 0xE0 then .more { bits := b - 0xC0, missing := 1 }
  else if b < 0xF0 then
    .more ⟨b - 0xE0, 2, if b = 0xE0 then 0xA0 else 0x80, if b = 0xED then 0x9F else 0xBF⟩
  else if b < 0xF5 then
    .more ⟨b - 0xF0, 3, if b = 0xF0 then 0x90 else 0x80, if b = 0xF4 then 0x8F else 0xBF⟩
  else .piece .broken

/-- The pieces of some bytes, the longest beginning of a character at a time. -/
def pieces : Option Partial → List Nat → List Piece
  | none, [] => []
  | some _, [] => [.broken]
  | none, b :: bs =>
    match start b with
    | .piece p => p :: pieces none bs
    | .more st => pieces (some st) bs
  | some st, b :: bs =>
    if st.low ≤ b && b ≤ st.high then
      let bits := st.bits * 64 + (b - 0x80)
      if st.missing = 1 then .char (Char.ofNat bits) :: pieces none bs
      else pieces (some { bits := bits, missing := st.missing - 1 }) bs
    else
      .broken :: match start b with
        | .piece p => p :: pieces none bs
        | .more st => pieces (some st) bs

/-- The pieces of some bytes. -/
def piecesOf (bs : Bytes) : List Piece := pieces none (bs.map UInt8.toNat)

/-- The character put in the place of a broken piece. -/
def replacement : Char := Char.ofNat 0xFFFD

/-- The text of some bytes, each broken piece replaced. -/
def decode (bs : Bytes) : Text :=
  (piecesOf bs).map fun
    | .char c => c
    | .broken => replacement

/-- The text of some bytes without a broken piece. -/
def decode? (bs : Bytes) : Option Text :=
  (piecesOf bs).mapM fun
    | .char c => some c
    | .broken => none

end Utf8

end NoteVault
