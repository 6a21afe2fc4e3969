import NoteVault.Number.Decimal
import NoteVault.Text.Digit

/-! What plain scalars mean. -/

namespace NoteVault.Yaml

/-- The meaning of a scalar. -/
inductive Meaning where
  | null
  | bool (b : Bool)
  | int (n : Int)
  | real (x : Binary64)
  | infinite (negative : Bool)
  | notANumber
  | text (t : Text)
  deriving DecidableEq, Repr

namespace Meaning

def isNullWord (s : Text) : Bool :=
  s == "null".toList || s == "Null".toList || s == "NULL".toList || s == ['~']

def bool? (s : Text) : Option Bool :=
  if s == "true".toList || s == "True".toList || s == "TRUE".toList then some true
  else if s == "false".toList || s == "False".toList || s == "FALSE".toList then some false
  else none

/-- Digits that begin with a superfluous zero are a text. -/
def isPaddedDigits (s : Text) : Bool :=
  let digits := match s with
    | '-' :: r => r
    | '+' :: r => r
    | _ => s
  match digits with
  | '0' :: c :: r => (c :: r).all Char.isDigit
  | _ => false

/-- A number written with the mark of its base: `0x`, `0o` or `0b`. -/
def marked? (s : Text) : Option Nat :=
  match s with
  | '0' :: 'x' :: r => Text.inBase? 16 r
  | '0' :: 'o' :: r => Text.inBase? 8 r
  | '0' :: 'b' :: r => Text.inBase? 2 r
  | _ => none

/-- The integer that a scalar writes. -/
def integer? (s : Text) : Option Int :=
  match s with
  | '-' :: r =>
    match marked? r with
    | some n => some (-n)
    | none => if isPaddedDigits s then none else (Text.toNat? r).map fun n => -(n : Int)
  | _ =>
    let r := match s with
      | '+' :: r => r
      | _ => s
    match marked? r with
    | some n => some n
    | none => if isPaddedDigits s then none else (Text.toNat? r).map Int.ofNat

/-- The number with a fraction or exponent, the infinity, or the undefined number that a scalar
writes. -/
def real? (s : Text) : Option Meaning :=
  let (hasPlus, r) : Bool × Text := match s with
    | '+' :: r => (true, r)
    | _ => (false, s)
  if hasPlus && (r.head? == some '+' || r.head? == some '-') then none
  else if [".inf".toList, ".Inf".toList, ".INF".toList].contains r then some (.infinite false)
  else if ["-.inf".toList, "-.Inf".toList, "-.INF".toList].contains s then some (.infinite true)
  else if [".nan".toList, ".NaN".toList, ".NAN".toList].contains s then some .notANumber
  else (Binary64.ofText? r).map .real

/-- The meaning of a plain scalar, none for an integer of more than 64 but at most 128 bits. -/
def ofPlain? (s : Text) : Option Meaning :=
  if s.isEmpty || isNullWord s then some .null
  else match bool? s with
    | some b => some (.bool b)
    | none =>
      let other : Meaning :=
        if isPaddedDigits s then .text s else (real? s).getD (.text s)
      match integer? s with
      | some n =>
        if isInteger64 n then some (.int n)
        else if -(pow2 127 : Int) ≤ n && n < pow2 128 then none
        else some other
      | none => some other

/-- The meaning that one of the tags for simple values forces; none where the text does not fit. -/
def ofTagged? (kind : Text) (s : Text) : Option Meaning :=
  if kind == "bool".toList then (bool? s).map .bool
  else if kind == "int".toList then
    match integer? s with
    | some n => if isInteger64 n then some (.int n) else none
    | none => none
  else if kind == "float".toList then real? s
  else if kind == "null".toList then if isNullWord s then some .null else none
  else some (.text s)

end Meaning

end NoteVault.Yaml
