import NoteVault.Text.Basic

/-! Classes of characters given by ranges of code points. -/

namespace NoteVault.Text

/-- Whether a code point lies in one of some ranges. -/
def inRanges (ranges : List (Nat × Nat)) (n : Nat) : Bool :=
  ranges.any fun (low, high) => low ≤ n && n ≤ high

/-- The value of the range that a code point lies in. -/
def valueIn? {α : Type} (ranges : List (Nat × Nat × α)) (n : Nat) : Option α :=
  ranges.findSome? fun (low, high, a) => if low ≤ n && n ≤ high then some a else none

end NoteVault.Text
