import Mathlib.Data.List.TakeWhile
import NoteVault.Number.Decimal

/-! Integers are read back from their decimal digits. -/

namespace NoteVault

namespace Text

theorem isDigit_of_mem_ofNat {n : Nat} {c : Char} (h : c ∈ ofNat n) : c.isDigit = true :=
  Nat.isDigit_of_mem_toDigits (by decide) (by decide) h

theorem ofNat_ne_nil (n : Nat) : ofNat n ≠ [] :=
  List.ne_nil_of_length_pos Nat.length_toDigits_pos

theorem digitsValue_ofNat (n : Nat) : digitsValue (ofNat n) = n :=
  Nat.ofDigitChars_toDigits (by decide) (by decide)

/-- A number of several digits does not begin with a zero. -/
theorem ofNat_eq_zero_cons {n : Nat} {s : Text} (h : ofNat n = '0' :: s) : s = [] := by
  induction n using Nat.strongRecOn generalizing s with
  | ind n ih =>
    unfold ofNat at h ih
    rw [Nat.toDigits_eq_if (by decide)] at h
    split at h
    · exact (List.cons.inj h).2.symm
    · next hn =>
      cases hd : Nat.toDigits 10 (n / 10) with
      | nil => exact absurd hd (ofNat_ne_nil _)
      | cons c cs =>
        rw [hd] at h
        obtain ⟨rfl, -⟩ := List.cons.inj h
        have hcs := ih (n / 10) (by omega) hd
        have hvalue := digitsValue_ofNat (n / 10)
        unfold ofNat at hvalue
        rw [hd, hcs] at hvalue
        have hzero : digitsValue ['0'] = 0 := rfl
        omega

theorem takeWhile_isDigit_ofNat (n : Nat) : (ofNat n).takeWhile Char.isDigit = ofNat n :=
  List.takeWhile_eq_self_iff.mpr fun _ hc => isDigit_of_mem_ofNat hc

theorem dropWhile_isDigit_ofNat (n : Nat) : (ofNat n).dropWhile Char.isDigit = [] :=
  List.dropWhile_eq_nil_iff.mpr fun _ hc => isDigit_of_mem_ofNat hc

theorem ofInt_eq (n : Int) :
    ofInt n = (if n < 0 then ['-'] else []) ++ ofNat n.natAbs := by
  cases n with
  | ofNat n => rfl
  | negSucc n =>
    rw [if_pos (Int.negSucc_lt_zero n), Int.natAbs_negSucc]
    rfl

end Text

namespace Decimal

theorem splitSign_ofInt (n : Int) :
    splitSign (Text.ofInt n) = (decide (n < 0), Text.ofNat n.natAbs) := by
  rw [Text.ofInt_eq]
  by_cases hn : n < 0
  · simp [hn, splitSign]
  · rw [if_neg hn, List.nil_append, decide_eq_false hn]
    cases hd : Text.ofNat n.natAbs with
    | nil => rfl
    | cons c cs =>
      have hc : c.isDigit = true := Text.isDigit_of_mem_ofNat (hd ▸ List.mem_cons_self)
      unfold splitSign
      split
      · next h =>
        obtain ⟨rfl, -⟩ := List.cons.inj h
        contradiction
      · next h =>
        obtain ⟨rfl, -⟩ := List.cons.inj h
        contradiction
      · rfl

theorem ofText?_ofInt (n : Int) :
    ofText? (Text.ofInt n) = some ⟨decide (n < 0), n.natAbs, 0⟩ := by
  have hne : (Text.ofNat n.natAbs).isEmpty = false := by
    simpa using Text.ofNat_ne_nil n.natAbs
  simp [ofText?, splitSign_ofInt, Text.takeWhile_isDigit_ofNat, Text.dropWhile_isDigit_ofNat, hne,
    exponentOf?, Text.digitsValue_ofNat]

end Decimal

end NoteVault
