import NoteVault.Number.Format

/-! Finite numbers of the 64 bit format, compared exactly. -/

namespace NoteVault

/-- A finite double: its sign and the position of its magnitude. -/
structure Binary64 where
  negative : Bool
  position : Nat
  finite : position < Format.binary64.infinity := by decide
  deriving DecidableEq, Repr

namespace Binary64

/-- Doubles are in the order of their ranks; both zeros have rank 0. -/
def rank (x : Binary64) : Int := if x.negative then -x.position else x.position

/-- Equality of values, under which the two zeros are equal. -/
def same (x y : Binary64) : Bool := x.rank == y.rank

/-- The magnitude is `significand * 2 ^ exponent`. -/
def significand (x : Binary64) : Nat := Format.binary64.significand x.position

@[inherit_doc significand]
def exponent (x : Binary64) : Int := Format.binary64.exponent x.position

/-- The double of a sign nearest to `num / den`, unless that is too large. -/
def ofRatio? (negative : Bool) (num den : Nat) : Option Binary64 :=
  let p := Format.binary64.nearest num den
  if h : p < Format.binary64.infinity then some ⟨negative, p, h⟩ else none

/-- The largest finite double of a sign. -/
def largest (negative : Bool) : Binary64 :=
  ⟨negative, Format.binary64.infinity - 1, by decide⟩

/-- The double nearest to an integer; an integer beyond the largest double goes there. -/
def ofInt (n : Int) : Binary64 :=
  (ofRatio? (n < 0) n.natAbs 1).getD (largest (n < 0))

/-- The integer that a double is, if it is whole. -/
def toInt? (x : Binary64) : Option Int :=
  let den := pow2 (-x.exponent).toNat
  if x.significand % den = 0 then
    let n : Int := (x.significand * pow2 x.exponent.toNat / den : Nat)
    some (if x.negative then -n else n)
  else none

/-- The fields of the 64 bit word. -/
def toBits (x : Binary64) : Nat := (if x.negative then pow2 63 else 0) + x.position

/-- The double with a given 64 bit word, if that is finite. -/
def ofBits? (w : Nat) : Option Binary64 :=
  let p := w % pow2 63
  if h : p < Format.binary64.infinity then some ⟨w / pow2 63 % 2 = 1, p, h⟩ else none

end Binary64

end NoteVault
