import NoteVault.Proofs.Number.Packing

/-! Rounding to the 32 bit format. Products of square roots stay within it. -/

namespace NoteVault.Single

open Float.Model UnpackedFloat

/-- How many bits of a significand are dropped when it is rounded. -/
def dropped (m : Nat) (e : Int) : Nat := (max (m.log2 + e - 23) (-149) - e).toNat

theorem mantissa_shiftRight (em : ExtendedMantissa) (n : Nat) :
    (em >>> n).mantissa = em.mantissa / 2 ^ n := by
  induction n with
  | zero => exact (Nat.div_one _).symm
  | succ n ih =>
    change (em >>> n).mantissa / 2 = _
    rw [ih, Nat.div_div_eq_div_mul, Nat.pow_succ]

theorem mantissa_ofMantissaAndAccuracy (m : Nat) (a : Accuracy) :
    (ExtendedMantissa.ofMantissaAndAccuracy m a).mantissa = m := by
  rcases a with _ | _ | _ | _ <;> rfl

theorem roundedMantissa_ofMantissaAndAccuracy (m : Nat) (a : Accuracy) :
    (ExtendedMantissa.ofMantissaAndAccuracy m a).roundedMantissa = a.roundToNearestEven m := by
  rcases a with _ | _ | _ | _ <;> rfl

theorem roundedMantissa_bounds (em : ExtendedMantissa) :
    em.mantissa ≤ em.roundedMantissa ∧ em.roundedMantissa ≤ em.mantissa + 1 := by
  obtain ⟨m, round, sticky⟩ := em
  cases round <;> cases sticky <;>
    simp only [ExtendedMantissa.roundedMantissa, ExtendedMantissa.accuracy,
      Accuracy.roundToNearestEven] <;> omega

theorem shiftToTargetExponent_eq (m : Nat) (e : Int) (a : Accuracy) :
    shiftToTargetExponent .binary32 m e a =
      (ExtendedMantissa.ofMantissaAndAccuracy m a >>> dropped m e, e + dropped m e) := by
  have htarget : Float.Model.Format.binary32.targetExponent (totalExponent m e) =
      max (m.log2 + e - 23) (-149) := by
    change max ((m.log2 : Int) + 1 + e - 24) (-149) = _
    omega
  simp only [shiftToTargetExponent, shiftToExponent, htarget, dropped]

theorem div_dropped_lt (m : Nat) (e : Int) : m / 2 ^ dropped m e < 2 ^ 24 := by
  rw [Nat.div_lt_iff_lt_mul (Nat.two_pow_pos _), ← Nat.pow_add]
  refine Nat.lt_of_lt_of_le Nat.lt_log2_self (Nat.pow_le_pow_right (by decide) ?_)
  unfold dropped
  omega

theorem le_add_dropped (m : Nat) (e : Int) : -149 ≤ e + dropped m e := by
  unfold dropped
  omega

theorem dropped_eq_zero {m : Nat} {e : Int} (hm : m < 2 ^ 24) (he : -149 ≤ e) :
    dropped m e = 0 := by
  have hlog : m.log2 < 24 := by
    by_cases h : m = 0
    · simp [h]
    · exact (Nat.log2_lt h).mpr hm
  unfold dropped
  omega

/-- A significand rounded to the bits that are left, a tie to the even one; this may take one bit
more. -/
def rounded (m : Nat) (e : Int) (a : Accuracy) : Nat :=
  (ExtendedMantissa.ofMantissaAndAccuracy m a >>> dropped m e).roundedMantissa

theorem rounded_bounds (m : Nat) (e : Int) (a : Accuracy) :
    m / 2 ^ dropped m e ≤ rounded m e a ∧ rounded m e a ≤ m / 2 ^ dropped m e + 1 := by
  have h := roundedMantissa_bounds (ExtendedMantissa.ofMantissaAndAccuracy m a >>> dropped m e)
  rwa [mantissa_shiftRight, mantissa_ofMantissaAndAccuracy] at h

variable {s : Sign} {m : Nat} {e : Int} {a : Accuracy}

theorem rounded_of_dropped_eq_zero (h : dropped m e = 0) :
    rounded m e a = a.roundToNearestEven m := by
  rw [rounded, h]
  exact roundedMantissa_ofMantissaAndAccuracy m a

theorem roundWithAccuracy_of_shift {r n : Nat} {f : Int} (hr : rounded m e a = r)
    (hf : e + dropped m e = f) (hn : dropped r f = n) :
    roundWithAccuracy .binary32 s m e a =
      if h : r / 2 ^ n = 0 then .zero s
      else .finite s (r / 2 ^ n) (f + n) (Nat.pos_of_ne_zero h) := by
  subst hr hf hn
  simp only [roundWithAccuracy, shiftToTargetExponent_eq, mantissa_shiftRight,
    mantissa_ofMantissaAndAccuracy, rounded]
  rfl

theorem roundWithAccuracy_zero (h : rounded m e a = 0) :
    roundWithAccuracy .binary32 s m e a = .zero s := by
  rw [roundWithAccuracy_of_shift h rfl rfl, dif_pos (Nat.zero_div _)]

theorem roundWithAccuracy_small (h : 0 < rounded m e a) (hlt : rounded m e a < 2 ^ 24) :
    roundWithAccuracy .binary32 s m e a = .finite s (rounded m e a) (e + dropped m e) h := by
  rw [roundWithAccuracy_of_shift rfl rfl (dropped_eq_zero hlt (le_add_dropped m e))]
  simp [Nat.ne_of_gt h]

/-- Rounding up to a power of two takes one bit more, which is dropped again. -/
theorem roundWithAccuracy_carry (h : rounded m e a = 2 ^ 24) :
    roundWithAccuracy .binary32 s m e a =
      .finite s (2 ^ 23) (e + dropped m e + 1) (by decide) := by
  have hone : dropped (2 ^ 24) (e + dropped m e) = 1 := by
    have hlow := le_add_dropped m e
    have hlog : (2 ^ 24).log2 = 24 := Nat.log2_two_pow
    rw [dropped, hlog]
    omega
  rw [roundWithAccuracy_of_shift h rfl hone]
  rfl

/-- What is rounded keeps its sign, and fits into the format unless its exponent is too large. -/
theorem roundWithAccuracy_cases (s : Sign) (m : Nat) (e : Int) (a : Accuracy) :
    roundWithAccuracy .binary32 s m e a = .zero s ∨
      ∃ n f h, roundWithAccuracy .binary32 s m e a = .finite s n f h ∧ n < 2 ^ 24 ∧ -149 ≤ f := by
  have hbound := (rounded_bounds m e a).2
  have hlt := div_dropped_lt m e
  have hlow := le_add_dropped m e
  rcases Nat.eq_zero_or_pos (rounded m e a) with hzero | hpos
  · exact .inl (roundWithAccuracy_zero hzero)
  · rcases Nat.lt_or_ge (rounded m e a) (2 ^ 24) with hsmall | hcarry
    · exact .inr ⟨_, _, _, roundWithAccuracy_small hpos hsmall, hsmall, hlow⟩
    · exact .inr ⟨_, _, _, roundWithAccuracy_carry (by omega), by decide, by omega⟩

/-! ### Square roots -/

/-- Where the square root of a number lies from the one that is rounded down. -/
def rootAccuracy (n : Nat) : Accuracy :=
  if n - n.sqrt * n.sqrt = 0 then .exact
  else .inexact (if n - n.sqrt * n.sqrt ≤ n.sqrt then .lt else .gt)

/-- The nearest integer to the square root of a number. -/
def nearestRoot (n : Nat) : Nat := (rootAccuracy n).roundToNearestEven n.sqrt

/-- The root of a number of 47 or 48 bits has 24 bits, also when it is rounded. -/
theorem root_bounds {n : Nat} (hlow : 2 ^ 46 ≤ n) (hhigh : n ≤ 2 ^ 48 - 2 ^ 24) :
    n.sqrt < 2 ^ 24 ∧ 2 ^ 23 ≤ nearestRoot n ∧ nearestRoot n < 2 ^ 24 := by
  have hroot : 2 ^ 23 ≤ n.sqrt := Nat.le_sqrt.mpr (by omega)
  have hroot' : n.sqrt < 2 ^ 24 := Nat.sqrt_lt.mpr (by omega)
  refine ⟨hroot', ?_⟩
  unfold nearestRoot rootAccuracy
  split
  · exact ⟨hroot, hroot'⟩
  · split
    · exact ⟨hroot, hroot'⟩
    · next hgt =>
      have hsquare := Nat.sqrt_le n
      have hne : n.sqrt ≠ 2 ^ 24 - 1 := by
        intro heq
        rw [heq] at hgt
        omega
      simp only [Accuracy.roundToNearestEven]
      omega

/-- The exponent of a square root. -/
def rootExponent (m : Nat) (e : Int) : Int := (m.log2 + 2 + e) / 2 - 24

/-- The number whose root is the significand of a square root. -/
def radicand (m : Nat) (e : Int) : Nat := m * 2 ^ (e - 2 * rootExponent m e).toNat

variable {m n : Nat} {e f : Int}

theorem radicand_bounds (hm : 0 < m) (hm' : m < 2 ^ 24) :
    2 ^ 46 ≤ radicand m e ∧ radicand m e ≤ 2 ^ 48 - 2 ^ 24 := by
  have hlog : m.log2 < 24 := (Nat.log2_lt (Nat.ne_of_gt hm)).mpr hm'
  have hlow := Nat.log2_self_le (Nat.ne_of_gt hm)
  have hhigh : m + 1 ≤ 2 ^ (m.log2 + 1) := Nat.lt_log2_self
  unfold radicand rootExponent
  generalize hn : (e - 2 * ((m.log2 + 2 + e) / 2 - 24)).toNat = n
  have hpos := Nat.two_pow_pos n
  have hlow' : 2 ^ (m.log2 + n) ≤ m * 2 ^ n := by
    rw [Nat.pow_add]
    exact Nat.mul_le_mul_right _ hlow
  have hhigh' : m * 2 ^ n + 2 ^ n ≤ 2 ^ (m.log2 + n + 1) := by
    calc m * 2 ^ n + 2 ^ n = (m + 1) * 2 ^ n := by rw [Nat.succ_mul]
      _ ≤ 2 ^ (m.log2 + 1) * 2 ^ n := Nat.mul_le_mul_right _ hhigh
      _ = 2 ^ (m.log2 + n + 1) := by rw [← Nat.pow_add]; congr 1; omega
  have hshift : m.log2 + n = 46 ∨ m.log2 + n = 47 := by omega
  rcases hshift with h | h
  · rw [h] at hlow' hhigh'
    omega
  · have hdouble : 2 ^ 24 ≤ 2 ^ n := Nat.pow_le_pow_right (by decide) (by omega)
    rw [h] at hlow' hhigh'
    omega

theorem sqrt_eq (h : 0 < m) (hm : m < 2 ^ 24) (he : -149 ≤ e) :
    ∃ hr, UnpackedFloat.sqrt .binary32 (.finite .positive m e h) =
      .finite .positive (nearestRoot (radicand m e)) (rootExponent m e) hr := by
  have hlog : m.log2 < 24 := (Nat.log2_lt (Nat.ne_of_gt h)).mpr hm
  have htarget : min (e.ediv 2) (Float.Model.Format.binary32.targetExponent
      ((totalExponent m e + 1).ediv 2)) = rootExponent m e := by
    change min (e / 2) (max (((m.log2 : Int) + 1 + e + 1) / 2 - 24) (-149)) = _
    unfold rootExponent
    omega
  obtain ⟨hlow, hhigh⟩ := radicand_bounds (e := e) h hm
  obtain ⟨hroot, hnearest, hnearest'⟩ := root_bounds hlow hhigh
  have hdropped : dropped (radicand m e).sqrt (rootExponent m e) = 0 := by
    refine dropped_eq_zero hroot ?_
    unfold rootExponent
    omega
  have hrounded := rounded_of_dropped_eq_zero (a := rootAccuracy (radicand m e)) hdropped
  change _ = nearestRoot (radicand m e) at hrounded
  have hround := roundWithAccuracy_small (s := .positive) (m := (radicand m e).sqrt)
    (e := rootExponent m e) (a := rootAccuracy (radicand m e)) (by omega) (by omega)
  simp only [hrounded, hdropped, Int.natCast_zero, Int.add_zero] at hround
  simp only [UnpackedFloat.sqrt, sqrtCore, htarget, Nat.shiftLeft_eq]
  exact ⟨by omega, hround⟩

theorem rootExponent_bounds (hm : 0 < m) (hm' : m < 2 ^ 24) (he : -149 ≤ e) (he' : e ≤ 104) :
    -98 ≤ rootExponent m e ∧ rootExponent m e ≤ 40 ∧
      (rootExponent m e = -98 → m = 1 ∧ e = -149) := by
  have hlog : m.log2 < 24 := (Nat.log2_lt (Nat.ne_of_gt hm)).mpr hm'
  have hone := (Nat.log2_eq_iff (k := 0) (Nat.ne_of_gt hm)).mp
  unfold rootExponent
  omega

theorem nearestRoot_smallest : nearestRoot (radicand 1 (-149)) = 11863283 := by
  have hroot : Nat.sqrt (2 ^ 47) = 11863283 := (Nat.eq_sqrt.mpr (by decide)).symm
  change (rootAccuracy (2 ^ 47)).roundToNearestEven (Nat.sqrt (2 ^ 47)) = _
  rw [rootAccuracy, hroot]
  rfl

/-- The square root of a positive number has all its 24 bits, and an exponent near zero. -/
theorem exists_sqrt_eq (h : 0 < m) (hm : m < 2 ^ 24) (he : -149 ≤ e) (he' : e ≤ 104) :
    ∃ r t hr, UnpackedFloat.sqrt .binary32 (.finite .positive m e h) = .finite .positive r t hr ∧
      2 ^ 23 ≤ r ∧ r < 2 ^ 24 ∧ -98 ≤ t ∧ t ≤ 40 ∧ (t = -98 → r = 11863283) := by
  obtain ⟨hr, hsqrt⟩ := sqrt_eq h hm he
  obtain ⟨hlow, hhigh⟩ := radicand_bounds (e := e) h hm
  obtain ⟨-, hroot, hroot'⟩ := root_bounds hlow hhigh
  obtain ⟨hexp, hexp', hmin⟩ := rootExponent_bounds h hm he he'
  refine ⟨_, _, hr, hsqrt, hroot, hroot', hexp, hexp', fun heq => ?_⟩
  obtain ⟨rfl, rfl⟩ := hmin heq
  exact nearestRoot_smallest

/-! ### Products of square roots -/

theorem round_product (hlow : 2 ^ 46 ≤ n) (hhigh : n ≤ (2 ^ 24 - 1) * (2 ^ 24 - 1))
    (he : -195 ≤ e) (he' : e ≤ 80) :
    ∃ r t h, roundWithAccuracy .binary32 .positive n e .exact = .finite .positive r t h ∧
      r < 2 ^ 24 ∧ -149 ≤ t ∧ t ≤ 104 := by
  have hlog : 46 ≤ n.log2 := (Nat.le_log2 (by omega)).mpr hlow
  have hlog' : n.log2 < 48 := (Nat.log2_lt (by omega)).mpr (by omega)
  obtain ⟨hle, hge⟩ := rounded_bounds n e .exact
  have hquotient : 0 < n / 2 ^ dropped n e := by
    refine Nat.div_pos ?_ (Nat.two_pow_pos _)
    refine Nat.le_trans (Nat.pow_le_pow_right (by decide) ?_) (Nat.log2_self_le (by omega))
    unfold dropped
    omega
  have hpos : 0 < rounded n e .exact := Nat.lt_of_lt_of_le hquotient hle
  have hlt := div_dropped_lt n e
  have hfloor := le_add_dropped n e
  rcases Nat.lt_or_ge (rounded n e .exact) (2 ^ 24) with hsmall | hcarry
  · refine ⟨_, _, hpos, roundWithAccuracy_small hpos hsmall, hsmall, hfloor, ?_⟩
    unfold dropped
    omega
  · refine ⟨_, _, _, roundWithAccuracy_carry (by omega), by decide, by omega, ?_⟩
    -- A product of 48 bits is not so large that it is carried.
    have hshort : n.log2 ≠ 47 := by
      intro hlong
      have hdropped : 24 ≤ dropped n e := by
        unfold dropped
        omega
      have hdiv : n / 2 ^ dropped n e ≤ n / 2 ^ 24 :=
        Nat.div_le_div_left (Nat.pow_le_pow_right (by decide) hdropped) (by decide)
      omega
    unfold dropped
    omega

/-- The product of two square roots is neither too large nor too small for the format. -/
theorem mul_sqrt_finite (hm : 0 < m) (hn : 0 < n) (hm' : m < 2 ^ 24) (hn' : n < 2 ^ 24)
    (he : -149 ≤ e) (he' : e ≤ 104) (hf : -149 ≤ f) (hf' : f ≤ 104) :
    ∃ r t hr, UnpackedFloat.mul .binary32
        (UnpackedFloat.sqrt .binary32 (.finite .positive m e hm))
        (UnpackedFloat.sqrt .binary32 (.finite .positive n f hn)) = .finite .positive r t hr ∧
      r < 2 ^ 24 ∧ -149 ≤ t ∧ t ≤ 104 := by
  obtain ⟨r, t, hr, hsqrt, hlow, hhigh, ht, ht', hmin⟩ := exists_sqrt_eq hm hm' he he'
  obtain ⟨q, u, hq, hsqrt', hlow', hhigh', hu, hu', hmin'⟩ := exists_sqrt_eq hn hn' hf hf'
  rw [hsqrt, hsqrt']
  by_cases hsmallest : t + u < -195
  · -- The square root of the smallest number, multiplied by itself, gives that number.
    obtain rfl : t = -98 := by omega
    obtain rfl : u = -98 := by omega
    obtain rfl := hmin rfl
    obtain rfl := hmin' rfl
    exact ⟨1, -149, Nat.one_pos, rfl, by decide, by decide, by decide⟩
  · have hbound : r * q ≤ (2 ^ 24 - 1) * (2 ^ 24 - 1) := Nat.mul_le_mul (by omega) (by omega)
    have hbound' : 2 ^ 23 * 2 ^ 23 ≤ r * q := Nat.mul_le_mul hlow hlow'
    exact round_product (by omega) hbound (by omega) (by omega)

end NoteVault.Single
