import NoteVault.Text.Basic

/-! Scanning a text from left to right for pieces that a step recognises. -/

namespace NoteVault.Text

/--
What a step finds in a text, where it is tried at every character outside the pieces found before.
A step gives its finding and the rest of the text; it has to use up a character.
-/
def scan {α : Type} (step : Text → Option (α × Text)) : Text → List α
  | [] => []
  | c :: s =>
    match step (c :: s) with
    | some (a, rest) => if rest.length ≤ s.length then a :: scan step rest else [a]
    | none => scan step s
termination_by s => s.length

/-- A text with `put` in the place of every piece that a step recognises. -/
def replaceMatches (step : Text → Option Text) (put : Text) : Text → Text
  | [] => []
  | c :: s =>
    match step (c :: s) with
    | some rest => if rest.length ≤ s.length then put ++ replaceMatches step put rest else put
    | none => c :: replaceMatches step put s
termination_by s => s.length

/-- A text with `put` in the place of every occurrence of `part`. -/
def replace (part put s : Text) : Text := replaceMatches (after? part) put s

end NoteVault.Text
