import NoteVault.Value.Coercion
import NoteVault.Text.Quoted
import NoteVault.Number.Decimal

/-! Literals of formulas and filters. -/

namespace NoteVault.Literal

/-- Whether a text is an optional sign and digits, with a fraction or without. -/
def isNumeral (s : Text) : Bool :=
  let s := match s with
    | '+' :: r => r
    | '-' :: r => r
    | _ => s
  !(s.takeWhile Char.isDigit).isEmpty &&
    match s.dropWhile Char.isDigit with
    | [] => true
    | '.' :: r => !r.isEmpty && r.all Char.isDigit
    | _ => false

/-- A whole literal within 64 bits is that integer. -/
def integer? (s : Text) : Option Int :=
  match Text.toInt? s with
  | some n => if isSigned64 n then some n else none
  | none => none

/-- The value of a number literal; one that is too large for a double is null. -/
def number? (s : Text) : Option Value :=
  let t := Text.trim s
  if !isNumeral t then none
  else match integer? t with
    | some n => some (.int n)
    | none =>
      match Binary64.ofText? t with
      | some x => some (.number (.ofBinary64 x))
      | none => some .null

/-- The text between two quotes that are the first and the last character. -/
def quoted? (t : Text) : Option Text := Text.unquoted? t

end NoteVault.Literal
