import NoteVault.Formula.Literal

/-! Comparisons in statements. -/

namespace NoteVault

inductive Comparison where
  | eq
  | ne
  | ge
  | le
  | gt
  | lt
  deriving DecidableEq, Repr

namespace Comparison

/-- The signs of comparisons; of two that begin alike the longer one stands first. -/
def signs : List (Text × Comparison) :=
  [("==", .eq), ("!=", .ne), (">=", .ge), ("<=", .le), ("=", .eq), (">", .gt), ("<", .lt)]

/-- Whether a comparison holds between two values. -/
def holds (op : Comparison) (a b : Option Value) : Bool :=
  match op with
  | .eq => Value.looselyEqual a b
  | .ne => !Value.looselyEqual a b
  | .gt => Value.compare a b == .gt
  | .ge => Value.compare a b != .lt
  | .lt => Value.compare a b == .lt
  | .le => Value.compare a b != .gt

/-- A sign at the beginning of a text in front of something else. -/
def sign? (s : Text) : Option (Comparison × Text) :=
  signs.findSome? fun (sign, op) =>
    match Text.after? sign s with
    | some (c :: r) => some (op, c :: r)
    | _ => none

/-- The two sides of the first comparison in a text; the left one has at least a character. -/
def sides? : Text → Option (Text × Comparison × Text)
  | [] => none
  | c :: s =>
    match sign? (Text.trimStart s) with
    | some (op, right) => some ([c], op, right)
    | none => (sides? s).map fun (left, op, right) => (c :: left, op, right)

/-- The value of the right side: a quoted text, a truth value, a number, or the text itself. -/
def operand (s : Text) : Value :=
  if Text.isQuoted s then .text (Text.stripQuotes s)
  else if Text.alike s "true" then .bool true
  else if Text.alike s "false" then .bool false
  else (Literal.number? s).getD (.text s)

end Comparison

end NoteVault
