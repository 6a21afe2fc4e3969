import NoteVault.Text.Basic

/-! Warnings of a query: each one once, and only so many. -/

namespace NoteVault

/-- The first `cap` different warnings, in order of addition, and how many more there were. -/
structure Warnings where
  cap : Nat
  seen : List Text := []
  kept : List Text := []
  dropped : Nat := 0

namespace Warnings

def add (w : Warnings) (t : Text) : Warnings :=
  if w.seen.contains t then w
  else if w.cap ≤ w.kept.length then { w with seen := t :: w.seen, dropped := w.dropped + 1 }
  else { w with seen := t :: w.seen, kept := w.kept ++ [t] }

def notice (dropped cap : Nat) : Text :=
  "Warnings truncated: ".toList ++ Text.ofNat dropped ++ " more not shown (cap ".toList ++
    Text.ofNat cap ++ ").".toList

/-- The warnings that are kept, and a notice about the others if there are any. -/
def finish (w : Warnings) : List Text :=
  if w.dropped = 0 then w.kept else w.kept ++ [notice w.dropped w.cap]

/-- What is reported of some warnings. -/
def report (cap : Nat) (ts : List Text) : List Text :=
  (ts.foldl add { cap := cap }).finish

end Warnings

end NoteVault
