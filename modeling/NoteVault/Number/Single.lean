import NoteVault.Number.Binary64
import NoteVault.Value.Basic

/-! Numbers of the 32 bit format, rounded from other numbers and widened to doubles. -/

namespace NoteVault

namespace Single

/-- The number of a sign nearest to `num / den`, which may be infinity. -/
def ofRatio (negative : Bool) (num den : Nat) : Float32 :=
  let position := min (Format.binary32.nearest num den) Format.binary32.infinity
  .ofBits (.ofNat ((if negative then pow2 31 else 0) + position))

/-- The double with the value of a finite number. -/
def toBinary64? (x : Float32) : Option Binary64 :=
  let w := x.toBits.toNat
  let position := w % pow2 31
  if Format.binary32.infinity ≤ position then none
  else
    let e := Format.binary32.exponent position
    Binary64.ofRatio? (pow2 31 ≤ w) (Format.binary32.significand position * pow2 e.toNat)
      (pow2 (-e).toNat)

end Single

/-- The number of 32 bits nearest to a double. -/
def Binary64.toSingle (x : Binary64) : Float32 :=
  Single.ofRatio x.negative (x.significand * pow2 x.exponent.toNat) (pow2 (-x.exponent).toNat)

/-- The number of 32 bits nearest to a number. -/
def Number.toSingle : Number → Float32
  | .int n => Single.ofRatio (n < 0) n.natAbs 1
  | .real x => x.toSingle

end NoteVault
