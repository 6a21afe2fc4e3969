import NoteVault.Text.Blank
import NoteVault.Json.Print

/-!
How values count as conditions, lists, numbers and texts. An absent value is `none`; null is a
value.
-/

namespace NoteVault

namespace Binary64

/-- A whole number of magnitude below a bound. -/
def wholeBelow? (bound : Nat) (x : Binary64) : Option Int :=
  match x.toInt? with
  | some n => if n.natAbs < bound then some n else none
  | none => none

end Binary64

namespace Number

/-- A whole double below 9·10¹⁵ becomes an integer. -/
def ofBinary64 (x : Binary64) : Number :=
  match x.wholeBelow? (9 * pow10 15) with
  | some n => .int n
  | none => .real x

/-- Plain decimal digits; a whole double below 10¹⁵ is written as an integer. -/
def display : Number → Text
  | .int n => Text.ofInt n
  | .real x =>
    match x.wholeBelow? (pow10 15) with
    | some n => Text.ofInt n
    | none => x.toPlainText

end Number

namespace Value

/-- Whether a value counts as true: text that is not blank, numbers other than zero, lists and
records that are not empty. -/
def isTruthy : Option Value → Bool
  | some (.bool b) => b
  | some (.text t) => !Text.isBlankText t
  | some (.number n) => n.toBinary64.rank != 0
  | some (.list items) => !items.isEmpty
  | some (.record fields) => !fields.isEmpty
  | _ => false

/-- A list as it is, any other value as a list of one; absence and null are the empty list. -/
def toList : Option Value → List Value
  | none => []
  | some .null => []
  | some (.list items) => items
  | some v => [v]

/-- Numbers and the texts that write one. -/
def finite? : Option Value → Option Binary64
  | some (.number n) => some n.toBinary64
  | some (.text t) => Binary64.ofText? (Text.trim t)
  | _ => none

mutual

/-- The text of a value for joins and comparisons. -/
def display : Value → Text
  | .null => []
  | .bool b => if b then "true" else "false"
  | .number n => n.display
  | .text t => t
  | .list items => Text.join [','] (displayItems items)
  | .record fields => Json.compact (.record fields)

def displayItems : List Value → List Text
  | [] => []
  | v :: vs => display v :: displayItems vs

end

theorem displayItems_eq_map (vs : List Value) : displayItems vs = vs.map display := by
  induction vs with
  | nil => rfl
  | cons v vs ih => simp [displayItems, ih]

/-- The text of a value; an absent one has none. -/
def displayText (v : Option Value) : Text := (v.map display).getD []

/-- The order of two values: of their numbers if both have one, else of their texts. -/
def compare (a b : Option Value) : Ordering :=
  match finite? a, finite? b with
  | some x, some y => Ord.compare x.rank y.rank
  | _, _ => Text.order (displayText a) (displayText b)

/-- Whether two values have the same number, or the same text if one is not a number. -/
def looselyEqual (a b : Option Value) : Bool :=
  match finite? a, finite? b with
  | some x, some y => x.same y
  | _, _ => displayText a == displayText b

end Value

end NoteVault
