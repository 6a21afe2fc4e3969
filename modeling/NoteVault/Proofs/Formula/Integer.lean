import NoteVault.Proofs.Formula.Literal
import NoteVault.Proofs.Number.Binary64
import NoteVault.Proofs.Number.Decimal
import NoteVault.Proofs.Text.OpenQuote
import NoteVault.Proofs.Text.Trim

/-! Whole literals: one of 64 bits counts as the double nearest to its integer, also where it is
read as a double because a sign leaves no room for it. -/

namespace NoteVault

variable {r s : Text} {n : Nat} {b : Int}

theorem Text.toNat?_eq_some_iff :
    toNat? s = some n ↔ s ≠ [] ∧ (∀ c ∈ s, c.isDigit = true) ∧ digitsValue s = n := by
  unfold toNat?
  by_cases hs : s = [] <;> by_cases hdigit : ∀ c ∈ s, c.isDigit = true <;> simp [hs, hdigit]

namespace Decimal

theorem toInt?_eq_splitSign (s : Text) : Text.toInt? s =
    (Text.toNat? (splitSign s).2).map fun n : Nat => if (splitSign s).1 then -(n : Int) else n := by
  unfold Text.toInt? splitSign
  split
  · next s => cases Text.toNat? s <;> rfl
  · rfl
  · rfl

/-- A whole literal is a sign, if there is one, and the digits of its magnitude. -/
theorem digits_of_toInt? (h : Text.toInt? r = some b) :
    Text.toNat? (splitSign r).2 = some b.natAbs ∧ ((splitSign r).1 = true → b ≤ 0) ∧
      ((splitSign r).1 = false → 0 ≤ b) := by
  rw [toInt?_eq_splitSign] at h
  obtain ⟨n, hn, hb⟩ := Option.map_eq_some_iff.mp h
  cases hsign : (splitSign r).1 with
  | false =>
    obtain rfl : (n : Int) = b := by simpa [hsign] using hb
    simpa using hn
  | true =>
    obtain rfl : -(n : Int) = b := by simpa [hsign] using hb
    simpa using hn

theorem ofText?_of_toInt? (h : Text.toInt? r = some b) :
    ofText? r = some ⟨(splitSign r).1, b.natAbs, 0⟩ := by
  obtain ⟨hnat, -⟩ := digits_of_toInt? h
  obtain ⟨hne, hdigit, hvalue⟩ := Text.toNat?_eq_some_iff.mp hnat
  have htake := List.takeWhile_eq_self_iff.mpr hdigit
  have hdrop := List.dropWhile_eq_nil_iff.mpr hdigit
  simp [ofText?, htake, hdrop, hne, exponentOf?, hvalue]

/-- An integer of 64 bits has few enough places for the double nearest to it. -/
theorem toBinary64?_natAbs (hb : b.natAbs < 2 ^ 64) (hpos : 0 < b.natAbs) (negative : Bool) :
    toBinary64? ⟨negative, b.natAbs, 0⟩ =
      some ⟨negative, Format.binary64.nearest b.natAbs 1, Binary64.nearest_lt_infinity hb⟩ := by
  have hplaces : (Text.ofNat b.natAbs).length ≤ 20 :=
    (Nat.length_toDigits_le_iff (by decide) (by decide)).mpr (Nat.lt_trans hb (by decide))
  have hlow : ¬(0 + ((Text.ofNat b.natAbs).length : Int) < -400) := by omega
  have hhigh : ¬(400 < 0 + ((Text.ofNat b.natAbs).length : Int)) := by omega
  simp only [toBinary64?, Nat.ne_of_gt hpos, hlow, hhigh, if_false, Int.toNat_zero,
    Int.neg_zero]
  change Binary64.ofRatio? negative (b.natAbs * 1) 1 = _
  rw [Nat.mul_one, Binary64.ofRatio?, dif_pos (Binary64.nearest_lt_infinity hb)]

end Decimal

theorem natAbs_lt_of_isInteger64 (h : isInteger64 b = true) : b.natAbs < 2 ^ 64 := by
  simp only [isInteger64, isSigned64, isUnsigned64, Bool.or_eq_true, Bool.and_eq_true,
    decide_eq_true_eq] at h
  omega

namespace Literal

theorem isNumeral_of_toInt? (h : Text.toInt? r = some b) : isNumeral r = true := by
  have hunsigned : unsigned r = (Decimal.splitSign r).2 := by
    unfold unsigned Decimal.splitSign
    split <;> simp_all
  obtain ⟨hnat, -⟩ := Decimal.digits_of_toInt? h
  obtain ⟨hne, hdigit, -⟩ := Text.toNat?_eq_some_iff.mp hnat
  rw [← hunsigned] at hne hdigit
  have htake := List.takeWhile_eq_self_iff.mpr hdigit
  have hdrop := List.dropWhile_eq_nil_iff.mpr hdigit
  refine Bool.and_eq_true_iff.mpr ⟨?_, ?_⟩
  · change (!((unsigned r).takeWhile Char.isDigit).isEmpty) = true
    simp [htake, hne]
  · split
    · rfl
    · next r hpoint => exact absurd (hdrop.symm.trans hpoint) (List.cons_ne_nil '.' r).symm
    · next hnil _ => exact absurd hdrop hnil

/-- A whole literal of 64 bits is a number whose double is the one nearest to its integer. -/
theorem number?_of_toInt? (h : Text.toInt? r = some b) (hb : isInteger64 b = true)
    (htrim : Text.trim r = r) :
    ∃ m : Number, number? r = some (.number m) ∧ m.toBinary64 = .ofInt b := by
  have hbound := natAbs_lt_of_isInteger64 hb
  simp only [number?, htrim, isNumeral_of_toInt? h, Bool.not_true, Bool.false_eq_true, if_false]
  cases hsigned : isSigned64 b with
  | true =>
    have hinteger : integer? r = some b := by simp [integer?, h, hsigned]
    rw [hinteger]
    exact ⟨.int b, rfl, rfl⟩
  | false =>
    have hinteger : integer? r = none := by simp [integer?, h, hsigned]
    have hlarge : 2 ^ 63 ≤ b ∧ b < 2 ^ 64 := by
      simp only [isInteger64, isSigned64, isUnsigned64, Bool.or_eq_true, Bool.and_eq_true,
        decide_eq_true_eq, Bool.and_eq_false_iff, decide_eq_false_iff_not] at hb hsigned
      omega
    obtain ⟨-, hnonpos, -⟩ := Decimal.digits_of_toInt? h
    have hsign : (Decimal.splitSign r).1 = false := by
      rw [Bool.eq_false_iff]
      intro hneg
      have := hnonpos hneg
      omega
    have hdouble : Binary64.ofText? r = some (.ofInt b) := by
      rw [Binary64.ofText?, Decimal.ofText?_of_toInt? h, hsign, Option.bind_some,
        Decimal.toBinary64?_natAbs hbound (by omega), Binary64.ofInt_eq hbound]
      simp only [Int.not_lt.mpr (show 0 ≤ b by omega), decide_false]
    have hreal : (Binary64.ofInt b).wholeBelow? (9 * pow10 15) = none := by
      unfold Binary64.wholeBelow?
      split
      · next n hn =>
        have hle := Binary64.le_natAbs_of_toInt?_ofInt hlarge.1 hlarge.2 hn
        have hbelow : 9 * pow10 15 ≤ 2 ^ 53 := by decide
        rw [if_neg (by omega)]
      · rfl
    rw [hinteger, hdouble]
    exact ⟨.ofBinary64 (.ofInt b), rfl, by rw [Number.ofBinary64, hreal]; rfl⟩

end Literal

end NoteVault
