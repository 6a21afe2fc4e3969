import Mathlib.Algebra.Group.Int.Defs
import Mathlib.Algebra.Group.Nat.Defs
import NoteVault.Number.Binary64

/-! The doubles nearest to integers. They stand in the order of the integers, but only integers that
doubles hold exactly are sure to have different ones. -/

namespace NoteVault

section Quotient

variable {m n den : Nat}

theorem div_le_roundDiv (n den : Nat) : n / den ≤ roundDiv n den := by
  unfold roundDiv
  dsimp only
  split
  · exact Nat.le_refl _
  · split
    · exact Nat.le_succ _
    · split
      · exact Nat.le_refl _
      · exact Nat.le_succ _

theorem roundDiv_le (n den : Nat) : roundDiv n den ≤ n / den + 1 := by
  unfold roundDiv
  dsimp only
  split
  · exact Nat.le_succ _
  · split
    · exact Nat.le_refl _
    · split
      · exact Nat.le_succ _
      · exact Nat.le_refl _

theorem roundDiv_of_dvd (hden : 0 < den) (h : den ∣ n) : roundDiv n den = n / den := by
  have hzero : 2 * (n % den) < den := by rwa [Nat.mod_eq_zero_of_dvd h]
  simp only [roundDiv, if_pos hzero]

theorem roundDiv_mono (h : m ≤ n) : roundDiv m den ≤ roundDiv n den := by
  rcases Nat.lt_or_eq_of_le (Nat.div_le_div_right (c := den) h) with hlt | heq
  · have hm := roundDiv_le m den
    have hn := div_le_roundDiv n den
    omega
  · have hm := Nat.div_add_mod m den
    have hn := Nat.div_add_mod n den
    have hmod : m % den ≤ n % den := by
      rw [heq] at hm
      omega
    unfold roundDiv
    dsimp only
    rw [heq]
    grind

end Quotient

namespace Binary64

variable {m n : Nat}

/-- The significand of the double nearest to an integer, or a power of two of 54 bits if rounding
carries. -/
def leading (n : Nat) : Nat := roundDiv (n * 2 ^ (52 - n.log2)) (2 ^ (n.log2 - 52))

theorem log2_sub_eq_zero (h : n < 2 ^ 53) : n.log2 - 52 = 0 := by
  rcases Nat.eq_zero_or_pos n with rfl | hpos
  · rfl
  · have := (Nat.log2_lt (Nat.ne_of_gt hpos)).mpr h
    omega

theorem floorLog2_one (h : 0 < n) : floorLog2 n 1 = n.log2 := by
  have hone : Nat.log2 1 = 0 := rfl
  have hzero : (-((n.log2 : Int) - (0 : Nat))).toNat = 0 := by omega
  have hlog : ((n.log2 : Int) - (0 : Nat)).toNat = n.log2 := by omega
  have hnot : ¬n * pow2 0 < 1 * pow2 n.log2 := by
    have := Nat.log2_self_le (Nat.ne_of_gt h)
    simpa using this
  simp only [floorLog2, hone, hzero, hlog, if_neg hnot]
  exact Int.sub_zero _

theorem nearest_eq (h : 0 < n) :
    Format.binary64.nearest n 1 = (n.log2 + 1022) * 2 ^ 52 + leading n := by
  have hmin : Format.binary64.minExponent = -1074 := by decide
  have hq : max (-1074) ((n.log2 : Int) - (52 : Nat)) = (n.log2 : Int) - 52 := by omega
  have hshift : ((n.log2 : Int) - 52 - -1074).toNat = n.log2 + 1022 := by omega
  have hup : (-((n.log2 : Int) - 52)).toNat = 52 - n.log2 := by omega
  have hdown : ((n.log2 : Int) - 52).toNat = n.log2 - 52 := by omega
  have hbits : Format.binary64.fractionBits = 52 := rfl
  simp only [Format.nearest, if_neg (Nat.ne_of_gt h), floorLog2_one h, hmin, hbits, hq, hshift, hup,
    hdown, Nat.one_mul]
  rfl

theorem quotient_bounds (h : 0 < n) :
    2 ^ 52 ≤ n * 2 ^ (52 - n.log2) / 2 ^ (n.log2 - 52) ∧
      n * 2 ^ (52 - n.log2) / 2 ^ (n.log2 - 52) < 2 ^ 53 := by
  have hpos := Nat.two_pow_pos (n.log2 - 52)
  have hlow : 2 ^ 52 * 2 ^ (n.log2 - 52) ≤ n * 2 ^ (52 - n.log2) := by
    calc 2 ^ 52 * 2 ^ (n.log2 - 52) = 2 ^ n.log2 * 2 ^ (52 - n.log2) := by
          rw [← Nat.pow_add, ← Nat.pow_add]
          congr 1
          omega
      _ ≤ n * 2 ^ (52 - n.log2) := Nat.mul_le_mul_right _ (Nat.log2_self_le (Nat.ne_of_gt h))
  have hhigh : n * 2 ^ (52 - n.log2) < 2 ^ 53 * 2 ^ (n.log2 - 52) := by
    calc n * 2 ^ (52 - n.log2) < 2 ^ (n.log2 + 1) * 2 ^ (52 - n.log2) :=
          Nat.mul_lt_mul_of_pos_right Nat.lt_log2_self (Nat.two_pow_pos _)
      _ = 2 ^ 53 * 2 ^ (n.log2 - 52) := by
          rw [← Nat.pow_add, ← Nat.pow_add]
          congr 1
          omega
  exact ⟨(Nat.le_div_iff_mul_le hpos).mpr hlow, (Nat.div_lt_iff_lt_mul hpos).mpr hhigh⟩

theorem leading_bounds (h : 0 < n) : 2 ^ 52 ≤ leading n ∧ leading n ≤ 2 ^ 53 := by
  obtain ⟨hlow, hhigh⟩ := quotient_bounds h
  exact ⟨Nat.le_trans hlow (div_le_roundDiv _ _), Nat.le_trans (roundDiv_le _ _) hhigh⟩

theorem nearest_mono (h : m ≤ n) :
    Format.binary64.nearest m 1 ≤ Format.binary64.nearest n 1 := by
  rcases Nat.eq_zero_or_pos m with rfl | hm
  · exact Nat.zero_le _
  · have hn := Nat.lt_of_lt_of_le hm h
    obtain ⟨-, hhigh⟩ := leading_bounds hm
    obtain ⟨hlow, -⟩ := leading_bounds hn
    rw [nearest_eq hm, nearest_eq hn]
    have hlog : m.log2 ≤ n.log2 :=
      (Nat.le_log2 (Nat.ne_of_gt hn)).mpr
        (Nat.le_trans (Nat.log2_self_le (Nat.ne_of_gt hm)) h)
    rcases Nat.lt_or_eq_of_le hlog with hlt | heq
    · omega
    · have hleading : leading m ≤ leading n := by
        rw [leading, leading, heq]
        exact roundDiv_mono (Nat.mul_le_mul_right _ h)
      omega

theorem nearest_lt_infinity (h : n < 2 ^ 64) :
    Format.binary64.nearest n 1 < Format.binary64.infinity := by
  have hinfinity : Format.binary64.infinity = 2047 * 2 ^ 52 := by decide
  rcases Nat.eq_zero_or_pos n with rfl | hn
  · exact hinfinity ▸ Nat.mul_pos (by decide) (by decide)
  · have hlog := (Nat.log2_lt (Nat.ne_of_gt hn)).mpr h
    obtain ⟨-, hhigh⟩ := leading_bounds hn
    rw [nearest_eq hn, hinfinity]
    omega

variable {a b : Int}

theorem ofInt_eq (h : a.natAbs < 2 ^ 64) :
    ofInt a = ⟨a < 0, Format.binary64.nearest a.natAbs 1, nearest_lt_infinity h⟩ := by
  simp only [ofInt, ofRatio?, dif_pos (nearest_lt_infinity h), Option.getD_some]

theorem rank_ofInt (h : a.natAbs < 2 ^ 64) : (ofInt a).rank =
    if a < 0 then -(Format.binary64.nearest a.natAbs 1 : Int)
    else Format.binary64.nearest a.natAbs 1 := by
  simp only [ofInt_eq h, rank, decide_eq_true_eq]

/-- Rounding keeps the order of integers. -/
theorem rank_ofInt_mono (ha : a.natAbs < 2 ^ 64) (hb : b.natAbs < 2 ^ 64) (h : a ≤ b) :
    (ofInt a).rank ≤ (ofInt b).rank := by
  rw [rank_ofInt ha, rank_ofInt hb]
  split
  · split
    · have := nearest_mono (m := b.natAbs) (n := a.natAbs) (by omega)
      omega
    · omega
  · rw [if_neg (by omega)]
    exact Int.ofNat_le.mpr (nearest_mono (by omega))

/-! ### Integers that doubles hold -/

/-- Whether a double has the value of an integer. -/
def IsExact (a : Int) : Prop := ∃ x : Binary64, x.toInt? = some a

theorem significand_lt (x : Binary64) : x.significand < 2 ^ 53 := by
  unfold significand Format.significand
  split
  · next hlt => exact Nat.lt_trans hlt (by decide)
  · have hmod := Nat.mod_lt x.position (Nat.two_pow_pos 52)
    change 2 ^ 52 + x.position % 2 ^ 52 < 2 ^ 53
    omega

theorem natAbs_of_toInt? {x : Binary64} (h : x.toInt? = some a) :
    a.natAbs = x.significand * 2 ^ x.exponent.toNat / 2 ^ (-x.exponent).toNat := by
  unfold toInt? at h
  dsimp only at h
  split at h
  · obtain rfl := Option.some.inj h
    split
    · exact (Int.natAbs_neg _).trans (Int.natAbs_natCast _)
    · exact Int.natAbs_natCast _
  · contradiction

/-- A double has no more than 53 bits, so that a large one is a multiple of a power of two. -/
theorem dvd_of_isExact (h : IsExact a) : 2 ^ (a.natAbs.log2 - 52) ∣ a.natAbs := by
  obtain ⟨x, hx⟩ := h
  have hsig := significand_lt x
  rw [natAbs_of_toInt? hx]
  rcases Int.le_total 0 x.exponent with hexp | hexp
  · have hzero : (-x.exponent).toNat = 0 := by omega
    rw [hzero, Nat.pow_zero, Nat.div_one]
    rcases Nat.eq_zero_or_pos x.significand with hnil | hpos
    · rw [hnil, Nat.zero_mul]
      exact Nat.dvd_zero _
    · have hlog : (x.significand * 2 ^ x.exponent.toNat).log2 < 53 + x.exponent.toNat := by
        have hproduct := Nat.mul_pos hpos (Nat.two_pow_pos x.exponent.toNat)
        rw [Nat.log2_lt (Nat.ne_of_gt hproduct), Nat.pow_add]
        exact Nat.mul_lt_mul_of_pos_right hsig (Nat.two_pow_pos _)
      exact Nat.dvd_mul_left_of_dvd (Nat.pow_dvd_pow 2 (by omega)) _
  · have hzero : x.exponent.toNat = 0 := by omega
    rw [hzero, Nat.pow_zero, Nat.mul_one]
    have hlt := Nat.lt_of_le_of_lt (Nat.div_le_self x.significand (2 ^ (-x.exponent).toNat)) hsig
    rw [log2_sub_eq_zero hlt]
    exact Nat.one_dvd _

/-- An integer that has no more than 53 bits up to its factors of two is not rounded. -/
theorem leading_of_dvd (h : 0 < n) (hdvd : 2 ^ (n.log2 - 52) ∣ n) :
    leading n < 2 ^ 53 ∧ leading n * 2 ^ (n.log2 - 52) = n * 2 ^ (52 - n.log2) := by
  have hdvd' := Nat.dvd_mul_right_of_dvd hdvd (2 ^ (52 - n.log2))
  rw [leading, roundDiv_of_dvd (Nat.two_pow_pos _) hdvd']
  exact ⟨(quotient_bounds h).2, Nat.div_mul_cancel hdvd'⟩

theorem significand_ofInt (h : a.natAbs < 2 ^ 64) (hpos : 0 < a.natAbs)
    (hlt : leading a.natAbs < 2 ^ 53) : (ofInt a).significand = leading a.natAbs := by
  obtain ⟨hlow, -⟩ := leading_bounds hpos
  simp only [significand, ofInt_eq h, Format.significand, nearest_eq hpos]
  change (if (a.natAbs.log2 + 1022) * 2 ^ 52 + leading a.natAbs < 2 ^ 52 then _
    else 2 ^ 52 + ((a.natAbs.log2 + 1022) * 2 ^ 52 + leading a.natAbs) % 2 ^ 52) = _
  rw [if_neg (by omega)]
  omega

theorem exponent_ofInt (h : a.natAbs < 2 ^ 64) (hpos : 0 < a.natAbs)
    (hlt : leading a.natAbs < 2 ^ 53) : (ofInt a).exponent = (a.natAbs.log2 : Int) - 52 := by
  obtain ⟨hlow, -⟩ := leading_bounds hpos
  have hmin : Format.binary64.minExponent = -1074 := by decide
  simp only [exponent, ofInt_eq h, Format.exponent, nearest_eq hpos, hmin]
  change -1074 + ((((a.natAbs.log2 + 1022) * 2 ^ 52 + leading a.natAbs) / 2 ^ 52 - 1 : Nat) : Int) =
    (a.natAbs.log2 : Int) - 52
  omega

theorem toInt?_ofInt (h : a.natAbs < 2 ^ 64) (hdvd : 2 ^ (a.natAbs.log2 - 52) ∣ a.natAbs) :
    (ofInt a).toInt? = some a := by
  rcases Nat.eq_zero_or_pos a.natAbs with hzero | hpos
  · obtain rfl := Int.natAbs_eq_zero.mp hzero
    decide +kernel
  · obtain ⟨hlt, hproduct⟩ := leading_of_dvd hpos hdvd
    have hup : (-((a.natAbs.log2 : Int) - 52)).toNat = 52 - a.natAbs.log2 := by omega
    have hdown : ((a.natAbs.log2 : Int) - 52).toNat = a.natAbs.log2 - 52 := by omega
    have hmod : leading a.natAbs % 2 ^ (52 - a.natAbs.log2) = 0 := by
      rcases Nat.le_total a.natAbs.log2 52 with hle | hge
      · rw [Nat.sub_eq_zero_of_le hle, Nat.pow_zero, Nat.mul_one] at hproduct
        rw [hproduct, Nat.mul_mod_left]
      · rw [Nat.sub_eq_zero_of_le hge, Nat.pow_zero, Nat.mod_one]
    have hvalue : leading a.natAbs * 2 ^ (a.natAbs.log2 - 52) / 2 ^ (52 - a.natAbs.log2) =
        a.natAbs := by
      rw [hproduct, Nat.mul_div_cancel _ (Nat.two_pow_pos _)]
    have hsign : (ofInt a).negative = decide (a < 0) := by rw [ofInt_eq h]
    simp only [toInt?, pow2, Nat.pow_eq, significand_ofInt h hpos hlt, exponent_ofInt h hpos hlt,
      hup, hdown, hmod, hvalue, hsign, decide_eq_true_eq, if_true]
    split <;> congr 1 <;> omega

theorem isExact_of_natAbs_le (h : a.natAbs ≤ 2 ^ 53) : IsExact a := by
  refine ⟨ofInt a, toInt?_ofInt (by omega) ?_⟩
  rcases Nat.lt_or_eq_of_le h with hlt | heq
  · rw [log2_sub_eq_zero hlt]
    exact Nat.one_dvd _
  · have hlog : (2 ^ 53).log2 = 53 := Nat.log2_two_pow
    rw [heq, hlog]
    exact Nat.pow_dvd_pow 2 (by decide)

theorem ofInt_inj_of_isExact (ha : a.natAbs < 2 ^ 64) (hb : b.natAbs < 2 ^ 64) (ha' : IsExact a)
    (hb' : IsExact b) : ofInt a = ofInt b ↔ a = b := by
  refine ⟨fun heq => ?_, fun heq => heq ▸ rfl⟩
  have hvalue := toInt?_ofInt ha (dvd_of_isExact ha')
  rw [heq, toInt?_ofInt hb (dvd_of_isExact hb')] at hvalue
  exact (Option.some.inj hvalue).symm

/-! ### The order of rounded integers -/

theorem nearest_pos (h : 0 < n) : 0 < Format.binary64.nearest n 1 := by
  obtain ⟨hlow, -⟩ := leading_bounds h
  rw [nearest_eq h]
  omega

theorem rank_ofInt_inj (ha : a.natAbs < 2 ^ 64) (hb : b.natAbs < 2 ^ 64) :
    (ofInt a).rank = (ofInt b).rank ↔ ofInt a = ofInt b := by
  refine ⟨fun heq => ?_, fun heq => heq ▸ rfl⟩
  rw [rank_ofInt ha, rank_ofInt hb] at heq
  have hpos : a < 0 → 0 < Format.binary64.nearest a.natAbs 1 := fun h => nearest_pos (by omega)
  have hpos' : b < 0 → 0 < Format.binary64.nearest b.natAbs 1 := fun h => nearest_pos (by omega)
  -- A double below zero is not a zero, so that the ranks tell the signs.
  have hsign : a < 0 ↔ b < 0 := by
    split at heq <;> split at heq <;> omega
  have hnearest : Format.binary64.nearest a.natAbs 1 = Format.binary64.nearest b.natAbs 1 := by
    split at heq <;> split at heq <;> omega
  rw [ofInt_eq ha, ofInt_eq hb]
  simp only [hsign, hnearest]

theorem rank_ofInt_lt_iff (ha : a.natAbs < 2 ^ 64) (hb : b.natAbs < 2 ^ 64) :
    (ofInt a).rank < (ofInt b).rank ↔ a < b ∧ ofInt a ≠ ofInt b := by
  have hinj := rank_ofInt_inj ha hb
  constructor
  · intro hlt
    have hle : ¬b ≤ a := fun hle => Int.not_lt.mpr (rank_ofInt_mono hb ha hle) hlt
    exact ⟨Int.not_le.mp hle, fun heq => Int.ne_of_lt hlt (hinj.mpr heq)⟩
  · rintro ⟨hlt, hne⟩
    have hle := rank_ofInt_mono ha hb (Int.le_of_lt hlt)
    exact Int.lt_iff_le_and_ne.mpr ⟨hle, fun heq => hne (hinj.mp heq)⟩

theorem rank_ofInt_lt_of_isExact (ha : a.natAbs < 2 ^ 64) (hb : b.natAbs < 2 ^ 64)
    (ha' : IsExact a) (hb' : IsExact b) (h : a < b) : (ofInt a).rank < (ofInt b).rank :=
  (rank_ofInt_lt_iff ha hb).mpr
    ⟨h, fun heq => Int.ne_of_lt h ((ofInt_inj_of_isExact ha hb ha' hb').mp heq)⟩

/-- An integer of less than 54 bits shares its double with no other integer. -/
theorem ofInt_inj_of_natAbs_lt (ha : a.natAbs < 2 ^ 53) (hb : b.natAbs < 2 ^ 64) :
    ofInt a = ofInt b ↔ a = b := by
  refine ⟨fun heq => ?_, fun heq => heq ▸ rfl⟩
  have ha' : a.natAbs < 2 ^ 64 := by omega
  have hexact := isExact_of_natAbs_le (Nat.le_of_lt ha)
  have hrank := (rank_ofInt_inj ha' hb).mpr heq
  -- Next to a small integer, on the way to the other one, there is one that is exact.
  rcases Int.lt_trichotomy a b with hlt | rfl | hgt
  · have hbound : (min b (2 ^ 53)).natAbs ≤ 2 ^ 53 := by omega
    have hstep := rank_ofInt_lt_of_isExact ha' (by omega) hexact (isExact_of_natAbs_le hbound)
      (show a < min b (2 ^ 53) by omega)
    have hmono := rank_ofInt_mono (a := min b (2 ^ 53)) (by omega) hb (by omega)
    omega
  · rfl
  · have hbound : (max b (-2 ^ 53)).natAbs ≤ 2 ^ 53 := by omega
    have hstep := rank_ofInt_lt_of_isExact (by omega) ha' (isExact_of_natAbs_le hbound) hexact
      (show max b (-2 ^ 53) < a by omega)
    have hmono := rank_ofInt_mono (b := max b (-2 ^ 53)) hb (by omega) (by omega)
    omega

/-- The double nearest to an integer that 64 bits hold only without a sign is not a small one. -/
theorem le_natAbs_of_toInt?_ofInt (ha : 2 ^ 63 ≤ a) (ha' : a < 2 ^ 64)
    (h : (ofInt a).toInt? = some b) : 2 ^ 53 ≤ b.natAbs := by
  have hpos : 0 < a.natAbs := by omega
  have hlog : a.natAbs.log2 = 63 := (Nat.log2_eq_iff (Nat.ne_of_gt hpos)).mpr (by omega)
  obtain ⟨hlow, -⟩ := leading_bounds hpos
  have hposition : (ofInt a).position = 1085 * 2 ^ 52 + leading a.natAbs := by
    rw [ofInt_eq (by omega)]
    exact (nearest_eq hpos).trans (by rw [hlog])
  have hsig : 2 ^ 52 ≤ (ofInt a).significand := by
    simp only [significand, Format.significand, hposition]
    change 2 ^ 52 ≤ if 1085 * 2 ^ 52 + leading a.natAbs < 2 ^ 52 then _
      else 2 ^ 52 + (1085 * 2 ^ 52 + leading a.natAbs) % 2 ^ 52
    rw [if_neg (by omega)]
    exact Nat.le_add_right _ _
  have hexp : 1 ≤ (ofInt a).exponent := by
    have hmin : Format.binary64.minExponent = -1074 := by decide
    simp only [exponent, Format.exponent, hposition, hmin]
    change 1 ≤ -1074 + (((1085 * 2 ^ 52 + leading a.natAbs) / 2 ^ 52 - 1 : Nat) : Int)
    omega
  have hzero : (-(ofInt a).exponent).toNat = 0 := by omega
  have hpow : 2 ^ 1 ≤ 2 ^ (ofInt a).exponent.toNat := Nat.pow_le_pow_right (by decide) (by omega)
  rw [natAbs_of_toInt? h, hzero, Nat.pow_zero, Nat.div_one]
  exact Nat.mul_le_mul hsig hpow

end Binary64

end NoteVault
