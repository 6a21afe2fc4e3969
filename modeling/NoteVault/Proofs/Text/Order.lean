import NoteVault.Text.Basic

/-! The dictionary order as a total order: what is not above is below or equal. -/

namespace NoteVault.Text

variable {s t u : Text}

theorem order_ne_gt_iff : order s t ≠ .gt ↔ order s t = .lt ∨ s = t := by
  rw [← order_eq_iff]
  cases order s t <;> simp

theorem order_ne_gt_of_gt (h : order s t = .gt) : order t s ≠ .gt := by
  rw [← order_swap, h]
  simp

theorem order_ne_gt_trans (hst : order s t ≠ .gt) (htu : order t u ≠ .gt) : order s u ≠ .gt := by
  rw [order_ne_gt_iff] at hst htu ⊢
  rcases hst with hst | rfl
  · rcases htu with htu | rfl
    · exact .inl (order_trans hst htu)
    · exact .inl hst
  · exact htu

theorem eq_of_order_ne_gt (hst : order s t ≠ .gt) (hts : order t s ≠ .gt) : s = t := by
  rw [order_ne_gt_iff] at hst
  rcases hst with hst | hst
  · have hgt : order t s = .gt := by rw [← order_swap, hst]; rfl
    contradiction
  · exact hst

end NoteVault.Text
