import NoteVault.Text.Basic

/-!
Punycode: labels of domain names in ASCII. The ASCII characters of a label stand first; behind the
last hyphen follow, as numbers of variable length, the steps to the places of all others.
-/

namespace NoteVault.Uri.Punycode

/-- The value of a digit: small letters, then decimal digits. -/
def digit? (c : Char) : Option Nat :=
  if c.isLower then some (c.toNat - 'a'.toNat)
  else if c.isDigit then some (c.toNat - '0'.toNat + 26)
  else none

/-- Numbers of the format are below this bound. -/
def bound : Nat := 4294967296

/-- A digit below the threshold of its column ends a number. -/
def threshold (column bias : Nat) : Nat :=
  if column ≤ bias then 1 else if bias + 26 ≤ column then 26 else column - bias

/-- Divides a step until it is small; every division counts for one column. -/
def scaled (column : Nat) (step : Nat) : Nat × Nat :=
  if 455 < step then scaled (column + 36) (step / 35) else (column, step)
termination_by step
decreasing_by exact Nat.div_lt_self (by omega) (by omega)

/-- The bias behind a step, for a text that has `size` characters by then. -/
def biasAfter (step size : Nat) (isFirst : Bool) : Nat :=
  let step := if isFirst then step / 700 else step / 2
  let (column, step) := scaled 0 (step + step / size)
  column + 36 * step / (step + 38)

/--
A text that is being read. The last character that was put in has the code point `code` and stands
in front of `place`; the number that is being read leads to `next`, and its next digit stands in
`column` and has the value `weight`.
-/
structure Progress where
  text : Text
  code : Nat := 128
  place : Nat := 0
  bias : Nat := 72
  next : Nat := 0
  column : Nat := 36
  weight : Nat := 1

/-- Puts in the character that a number leads to. -/
def Progress.inserted? (p : Progress) : Option Progress :=
  let size := p.text.length + 1
  let code := p.code + p.next / size
  let place := p.next % size
  if h : code.isValidChar then
    some {
      text := p.text.insertIdx place (Char.ofNatAux code h)
      code
      place := place + 1
      next := place + 1
      bias := biasAfter (p.next - p.place) size (p.place == 0) }
  else none

def Progress.digit? (p : Progress) (d : Nat) : Option Progress :=
  let t := threshold p.column p.bias
  let p := { p with next := p.next + d * p.weight }
  if bound ≤ p.next then none
  else if d < t then p.inserted?
  else
    let weight := p.weight * (36 - t)
    if bound ≤ weight then none else some { p with weight, column := p.column + 36 }

/-- The text to which digits lead; none if they end within a number. -/
def Progress.finish? (p : Progress) : Text → Option Text
  | [] => if p.column = 36 then some p.text else none
  | c :: s => ((Punycode.digit? c).bind p.digit?).bind fun p => p.finish? s

/-- The text that a label in ASCII stands for. -/
def decode? (s : Text) : Option Text :=
  match Text.cutLast? '-' s with
  | none => Progress.finish? { text := [] } s
  | some ([], _) => none
  | some (plain, digits) => Progress.finish? { text := plain } digits

end NoteVault.Uri.Punycode
