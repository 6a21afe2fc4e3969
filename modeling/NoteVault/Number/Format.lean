import NoteVault.Number.Power

/-!
Binary floating formats. The non-negative numbers of a format, taken in ascending order, are its
positions 0, 1, 2, …; the position after the last finite one stands for infinity.
-/

namespace NoteVault

/-- The widths of the two fields of a binary floating number. -/
structure Format where
  fractionBits : Nat
  exponentBits : Nat
  deriving DecidableEq, Repr

namespace Format

/-- The format of 64 bits. -/
def binary64 : Format := ⟨52, 11⟩

/-- The format of 32 bits. -/
def binary32 : Format := ⟨23, 8⟩

variable (f : Format)

/-- The binary exponent of the unit of the smallest numbers. -/
def minExponent : Int := 2 - pow2 (f.exponentBits - 1) - f.fractionBits

/-- The position of infinity. -/
def infinity : Nat := (pow2 f.exponentBits - 1) * pow2 f.fractionBits

/-- The number at a position is `significand * 2 ^ exponent`. -/
def significand (position : Nat) : Nat :=
  if position < pow2 f.fractionBits then position
  else pow2 f.fractionBits + position % pow2 f.fractionBits

@[inherit_doc significand]
def exponent (position : Nat) : Int :=
  f.minExponent + (position / pow2 f.fractionBits - 1 : Nat)

end Format

/-- A quotient rounded to the nearest integer, a tie to the even one. -/
def roundDiv (num den : Nat) : Nat :=
  let q := num / den
  let twice := 2 * (num % den)
  if twice < den then q
  else if den < twice then q + 1
  else if q % 2 = 0 then q else q + 1

/-- The largest integer `e` with `2 ^ e ≤ num / den`, for positive `num` and `den`. -/
def floorLog2 (num den : Nat) : Int :=
  let e : Int := (num.log2 : Int) - den.log2
  if num * pow2 (-e).toNat < den * pow2 e.toNat then e - 1 else e

/--
The position of the number nearest to `num / den`, a tie going to the even position. A quotient
too large for the format is given the position of infinity or one beyond it.
-/
def Format.nearest (f : Format) (num den : Nat) : Nat :=
  if num = 0 then 0
  else
    let q := max f.minExponent (floorLog2 num den - f.fractionBits)
    (q - f.minExponent).toNat * pow2 f.fractionBits +
      roundDiv (num * pow2 (-q).toNat) (den * pow2 q.toNat)

end NoteVault
