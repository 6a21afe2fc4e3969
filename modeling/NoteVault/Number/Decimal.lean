import NoteVault.Text.Basic
import NoteVault.Number.Binary64

/-! Decimal numerals and the doubles nearest to them. -/

namespace NoteVault

namespace Text

/-- The value of a run of decimal digits. -/
def digitsValue (s : Text) : Nat := s.foldl (fun n c => 10 * n + (c.toNat - '0'.toNat)) 0

/-- The number that a non-empty run of ASCII digits writes. -/
def toNat? (s : Text) : Option Nat :=
  if s.isEmpty || !s.all Char.isDigit then none else some (digitsValue s)

/-- The integer that a run of ASCII digits with an optional sign writes. -/
def toInt? : Text → Option Int
  | '-' :: s => (toNat? s).map fun n => -(n : Int)
  | '+' :: s => (toNat? s).map Int.ofNat
  | s => (toNat? s).map Int.ofNat

end Text

/-- The number `digits * 10 ^ exponent` with a sign. -/
structure Decimal where
  negative : Bool
  digits : Nat
  exponent : Int
  deriving DecidableEq, Repr

namespace Decimal

/-- A sign, if one stands there, and the rest. -/
def splitSign : Text → Bool × Text
  | '-' :: s => (true, s)
  | '+' :: s => (false, s)
  | s => (false, s)

/-- The exponent part of a numeral: absent, or `e` with an optional sign and digits. -/
def exponentOf? : Text → Option Int
  | [] => some 0
  | c :: s => if c == 'e' || c == 'E' then Text.toInt? s else none

/--
Reads a numeral: an optional sign, digits with at most one point and at least one digit, and an
optional exponent.
-/
def ofText? (s : Text) : Option Decimal :=
  let (negative, s) := splitSign s
  let whole := s.takeWhile Char.isDigit
  let s := s.dropWhile Char.isDigit
  let (fraction, s) := match s with
    | '.' :: r => (r.takeWhile Char.isDigit, r.dropWhile Char.isDigit)
    | _ => ([], s)
  if whole.isEmpty && fraction.isEmpty then none
  else (exponentOf? s).map fun e =>
    ⟨negative, Text.digitsValue (whole ++ fraction), e - fraction.length⟩

/--
The double nearest to a decimal, unless that is too large. Numbers of more than 400 places before
the point are too large, and those with 400 zeros after it are zero.
-/
def toBinary64? (d : Decimal) : Option Binary64 :=
  let places := d.exponent + (Text.ofNat d.digits).length
  if d.digits = 0 || places < -400 then some ⟨d.negative, 0, by decide⟩
  else if 400 < places then none
  else Binary64.ofRatio? d.negative (d.digits * pow10 d.exponent.toNat) (pow10 (-d.exponent).toNat)

end Decimal

/-- The finite double that a numeral writes. -/
def Binary64.ofText? (s : Text) : Option Binary64 := (Decimal.ofText? s).bind Decimal.toBinary64?

end NoteVault
