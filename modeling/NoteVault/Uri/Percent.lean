import NoteVault.Text.Digit
import NoteVault.Text.Utf8

/-! Bytes in URIs: a percent sign and two hexadecimal digits write one. -/

namespace NoteVault.Uri

def isControl (c : Char) : Bool := c.toNat < 32 || c.toNat = 127

/-- A byte as a percent sign and two digits. -/
def hexByte (n : Nat) : Text :=
  let digit (n : Nat) : Char := (Nat.digitChar n).toUpper
  ['%', digit (n / 16), digit (n % 16)]

/-- A text with its bytes written out for the characters that `p` holds of. -/
def escaped (p : Char → Bool) (s : Text) : Text :=
  s.flatMap fun c => if p c then (Utf8.encodeChar c).flatMap hexByte else [c]

/-- The bytes of a text, those that are written out and those of its other characters. -/
def unescaped : Text → Bytes
  | '%' :: a :: b :: s =>
    match Text.inBase? 16 [a, b] with
    | some n => UInt8.ofNat n :: unescaped s
    | none => Utf8.encode ['%'] ++ unescaped (a :: b :: s)
  | c :: s => Utf8.encode [c] ++ unescaped s
  | [] => []

/-- The characters that no URI holds as they are. -/
def isNeverPlain (c : Char) : Bool := isControl c || 127 < c.toNat

end NoteVault.Uri
