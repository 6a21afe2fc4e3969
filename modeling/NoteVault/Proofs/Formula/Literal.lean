import Mathlib.Data.List.TakeWhile
import NoteVault.Formula.Literal
import NoteVault.Text.Letter

/-! The characters of numerals. -/

namespace NoteVault

theorem Text.isNameChar_of_isDigit {c : Char} (h : c.isDigit = true) : isNameChar c = true := by
  have hlt : c.toNat < 128 := by
    simp only [Char.isDigit, Bool.and_eq_true, decide_eq_true_eq] at h
    exact Nat.lt_of_le_of_lt (UInt32.le_iff_toNat_le.mp h.2) (by decide)
  simp [isNameChar, isNumeral, hlt, h]

namespace Literal

variable {s : Text} {c : Char}

theorem isNumeral_cons_eq_false (hdigit : c.isDigit = false) (hplus : c ≠ '+')
    (hminus : c ≠ '-') (s : Text) : isNumeral (c :: s) = false := by
  unfold isNumeral
  split
  · next r hr => exact absurd (List.cons.inj hr).1 hplus
  · next r hr => exact absurd (List.cons.inj hr).1 hminus
  · simp [hdigit]

/-- A numeral without its sign. -/
def unsigned (s : Text) : Text :=
  match s with
  | '+' :: r => r
  | '-' :: r => r
  | _ => s

theorem mem_unsigned (hc : c ∈ s) : c ∈ unsigned s ∨ c = '+' ∨ c = '-' := by
  unfold unsigned
  split
  · rcases List.mem_cons.mp hc with rfl | hc
    · exact .inr (.inl rfl)
    · exact .inl hc
  · rcases List.mem_cons.mp hc with rfl | hc
    · exact .inr (.inr rfl)
    · exact .inl hc
  · exact .inl hc

theorem ne_nil_of_isNumeral (h : isNumeral s = true) : s ≠ [] := by
  rintro rfl
  exact absurd h (by decide)

theorem mem_of_isNumeral (h : isNumeral s = true) (hc : c ∈ s) :
    c.isDigit = true ∨ c ∈ ['+', '-', '.'] := by
  rcases mem_unsigned hc with hu | rfl | rfl
  · have hfraction := (Bool.and_eq_true_iff.mp h).2
    rw [← List.takeWhile_append_dropWhile (p := Char.isDigit) (l := unsigned s)] at hu
    rcases List.mem_append.mp hu with hu | hu
    · exact .inl (List.mem_takeWhile_imp hu)
    · split at hfraction
      · next hnil =>
        have hrest : (unsigned s).dropWhile Char.isDigit = [] := hnil
        simp [hrest] at hu
      · next r hpoint =>
        have hrest : (unsigned s).dropWhile Char.isDigit = '.' :: r := hpoint
        rw [hrest] at hu
        rcases List.mem_cons.mp hu with rfl | hu
        · exact .inr (by decide)
        · exact .inl (List.all_eq_true.mp (Bool.and_eq_true_iff.mp hfraction).2 c hu)
      · contradiction
  · exact .inr (by decide)
  · exact .inr (by decide)

end Literal

end NoteVault
