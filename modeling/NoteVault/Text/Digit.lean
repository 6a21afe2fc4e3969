import NoteVault.Text.Basic

/-! Digits of other bases. -/

namespace NoteVault.Text

/-- The value of a digit, hexadecimal ones included. -/
def digitValue? (c : Char) : Option Nat :=
  if c.isDigit then some (c.toNat - '0'.toNat)
  else if 'a' ≤ c && c ≤ 'f' then some (c.toNat - 'a'.toNat + 10)
  else if 'A' ≤ c && c ≤ 'F' then some (c.toNat - 'A'.toNat + 10)
  else none

/-- The number that digits of a base write, at least one. -/
def inBase? (base : Nat) (s : Text) : Option Nat :=
  if s.isEmpty then none
  else s.foldl (fun n c => n.bind fun n =>
    match digitValue? c with
    | some d => if d < base then some (base * n + d) else none
    | none => none) (some 0)

end NoteVault.Text
