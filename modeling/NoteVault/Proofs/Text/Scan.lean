import NoteVault.Text.Scan

/-! Scans over a text in which a step recognises nothing, or something at the beginning. -/

namespace NoteVault.Text

variable {α : Type} {step : Text → Option (α × Text)} {c : Char} {p s : Text}

theorem scan_cons_of_none (h : step (c :: s) = none) : scan step (c :: s) = scan step s := by
  rw [scan, h]

theorem scan_cons_of_some {a : α} {rest : Text} (h : step (c :: s) = some (a, rest))
    (hlen : rest.length ≤ s.length) : scan step (c :: s) = a :: scan step rest := by
  simp only [scan, h, hlen, if_true]

theorem scan_append_of_none (h : ∀ l c r, p = l ++ c :: r → step (c :: (r ++ s)) = none) :
    scan step (p ++ s) = scan step s := by
  induction p with
  | nil => rfl
  | cons c p ih =>
    rw [List.cons_append, scan_cons_of_none (h [] c p rfl)]
    exact ih fun l d r hp => h (c :: l) d r (by rw [hp, List.cons_append])

section Replacing

variable {step : Text → Option Text} {rest : Text} (put : Text)

theorem replaceMatches_cons_of_none (h : step (c :: s) = none) :
    replaceMatches step put (c :: s) = c :: replaceMatches step put s := by
  rw [replaceMatches, h]

theorem replaceMatches_cons_of_some (h : step (c :: s) = some rest)
    (hlen : rest.length ≤ s.length) :
    replaceMatches step put (c :: s) = put ++ replaceMatches step put rest := by
  simp only [replaceMatches, h, hlen, if_true]

theorem replaceMatches_append_of_none
    (h : ∀ l c r, p = l ++ c :: r → step (c :: (r ++ s)) = none) :
    replaceMatches step put (p ++ s) = p ++ replaceMatches step put s := by
  induction p with
  | nil => rfl
  | cons c p ih =>
    rw [List.cons_append, replaceMatches_cons_of_none put (h [] c p rfl),
      ih fun l d r hp => h (c :: l) d r (by rw [hp, List.cons_append]), List.cons_append]

end Replacing

end NoteVault.Text
