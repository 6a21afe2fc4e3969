import NoteVault.Number.Decimal

/-!
The text of a double: the fewest digits that read back, and of those the digits nearest to the
value. Where two are equally near, the text without an exponent takes the upper one and the exact
text the even one.
-/

namespace NoteVault

/-- The largest integer `e` with `10 ^ e ≤ num / den`, for positive `num` and `den`. -/
def floorLog10 (num den : Nat) : Int :=
  if den ≤ num then ((Text.ofNat (num / den)).length : Int) - 1
  else
    let n := (Text.ofNat (den / num)).length
    if den ≤ num * pow10 (n - 1) then 1 - (n : Int) else -(n : Int)

namespace Binary64

/-- Which of two equally near digits is taken. -/
inductive Tie where
  | even
  | up
  deriving DecidableEq, Repr

/-- Whether a tie goes to the lower of two neighbours, which is `d`. -/
def Tie.isDown (tie : Tie) (d : Nat) : Bool :=
  match tie with
  | .even => d % 2 = 0
  | .up => false

/--
The numbers that round to a double lie between `low / den` and `high / den`; the ends belong to
them when `closed`, which holds for an even significand. The double itself is `num / den`.
-/
structure Neighbourhood where
  low : Nat
  num : Nat
  high : Nat
  den : Nat
  closed : Bool

def neighbourhood (x : Binary64) : Neighbourhood :=
  let m := x.significand
  let q := x.exponent - 2
  let scale := pow2 q.toNat
  let atBinade := m = pow2 52 && pow2 53 ≤ x.position
  { low := (4 * m - if atBinade then 1 else 2) * scale
    num := 4 * m * scale
    high := (4 * m + 2) * scale
    den := pow2 (-q).toNat
    closed := m % 2 = 0 }

/-- The multiple of `10 ^ k` in a neighbourhood that is nearest to the double, as its factor. -/
def Neighbourhood.onGrid? (tie : Tie) (b : Neighbourhood) (k : Int) : Option Nat :=
  let up := pow10 (-k).toNat
  let unit := b.den * pow10 k.toNat
  let d := b.num * up / unit
  let inside (n : Nat) : Bool :=
    if b.closed then b.low * up ≤ n * unit && n * unit ≤ b.high * up
    else b.low * up < n * unit && n * unit < b.high * up
  let below := b.num * up - d * unit
  let above := (d + 1) * unit - b.num * up
  match inside d, inside (d + 1) with
  | true, true => some (if below < above || (below = above && tie.isDown d) then d else d + 1)
  | true, false => some d
  | false, true => some (d + 1)
  | false, false => none

/-- A factor and an exponent of ten, for a positive double. -/
def shortest (tie : Tie) (x : Binary64) : Nat × Int :=
  let b := x.neighbourhood
  let top := floorLog10 b.num b.den
  ((List.range 18).findSome? fun i : Nat =>
    let k := top - i
    (b.onGrid? tie k).map fun d => (d, k)).getD (0, 0)

/-- The shortest digits, without zeros at the end, and the place of the point after the first. -/
def shortestDigits (tie : Tie) (x : Binary64) : Text × Int :=
  let (d, k) := x.shortest tie
  let all := Text.ofNat d
  let digits := (all.reverse.dropWhile (· == '0')).reverse
  (digits, k + all.length)

def signText (x : Binary64) : Text := if x.negative then ['-'] else []

/-- Digits with a point after the first `place` of them, filled up with zeros where needed. -/
def positional (digits : Text) (place : Int) : Text × Text :=
  if place ≤ 0 then (['0'], List.replicate (-place).toNat '0' ++ digits)
  else
    let n := place.toNat
    (digits.take n ++ List.replicate (n - digits.length) '0', digits.drop n)

/-- The text without an exponent; a whole number has no point. -/
def toPlainText (x : Binary64) : Text :=
  if x.position = 0 then x.signText ++ ['0']
  else
    let (digits, place) := x.shortestDigits .up
    let (whole, fraction) := positional digits place
    x.signText ++ whole ++ if fraction.isEmpty then [] else '.' :: fraction

/--
The text with an exponent where the point would stand more than 16 places after the first digit or
more than 5 before it; `plus` is what stands for the sign of a positive exponent. A number without
exponent always has a fraction.
-/
def toExactText (plus : Text) (x : Binary64) : Text :=
  if x.position = 0 then x.signText ++ "0.0"
  else
    let (digits, place) := x.shortestDigits .even
    if -5 < place && place ≤ 16 then
      let (whole, fraction) := positional digits place
      x.signText ++ whole ++ '.' :: if fraction.isEmpty then ['0'] else fraction
    else
      let e := place - 1
      let fraction := digits.drop 1
      x.signText ++ digits.take 1 ++ (if fraction.isEmpty then [] else '.' :: fraction) ++
        'e' :: (if e < 0 then ['-'] else plus) ++ Text.ofNat e.natAbs

end Binary64

end NoteVault
