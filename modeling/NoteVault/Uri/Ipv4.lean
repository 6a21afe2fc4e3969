import NoteVault.Text.Digit

/-! Addresses of four bytes, written as up to four numbers with full stops between them. -/

namespace NoteVault.Uri.Ipv4

/-- The number that a part writes: hexadecimal behind `0x`, octal behind `0`, else decimal. -/
def number? (s : Text) : Option Nat :=
  match s with
  | ['0', 'x'] => some 0
  | '0' :: 'x' :: r => Text.inBase? 16 r
  | '0' :: c :: r => Text.inBase? 8 (c :: r)
  | _ => Text.inBase? 10 s

/-- Whether a name that ends in a part is meant as an address. -/
def isNumeric (s : Text) : Bool := (!s.isEmpty && s.all Char.isDigit) || (number? s).isSome

/-- The address of some numbers, of which the last one fills all bytes that are left. -/
def ofNumbers? (ns : List Nat) : Option Nat :=
  match ns.reverse with
  | [] => none
  | last :: front =>
    let left := Nat.pow 256 (4 - front.length)
    if front.length < 4 && front.all (· < 256) && last < left then
      some (front.reverse.foldl (fun n b => 256 * n + b) 0 * left + last)
    else none

def ofParts? (parts : List Text) : Option Nat := (parts.mapM number?).bind ofNumbers?

/-- An address as four decimal numbers. -/
def toText (n : Nat) : Text :=
  Text.join ['.'] ([n / 16777216, n / 65536 % 256, n / 256 % 256, n % 256].map Text.ofNat)

end NoteVault.Uri.Ipv4
