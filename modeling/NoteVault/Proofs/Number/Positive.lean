import NoteVault.Proofs.Number.Rounding
import NoteVault.Proofs.Number.Single

/-! Numbers of 32 bits without a minus sign: their sums, and quotients by them. -/

namespace NoteVault.Single

open Float.Model

/-- Whether a number is positive, and perhaps infinite. -/
def IsPositive (x : Float32) : Prop :=
  x.toModel.unpack = .infinity .positive ∨ ∃ m e h, x.toModel.unpack = .finite .positive m e h

/-- Whether a number is positive or the zero without a sign. -/
def IsNonneg (x : Float32) : Prop := x.toModel.unpack = .zero .positive ∨ IsPositive x

variable {x y : Float32}

theorem IsNonneg.isPositive (h : IsNonneg x) (hne : (x == 0) = false) : IsPositive x := by
  rcases h with h | h
  · have heq : x == 0 := by
      rw [beq_iff_compare, h]
      rfl
    rw [heq] at hne
    contradiction
  · exact h

theorem isNonneg_zero : IsNonneg 0 := .inl rfl

/-- A positive number stays one when it is packed. -/
theorem isPositive_pack {m : Nat} {e : Int} (h : 0 < m) (hm : m < 2 ^ 24) (he : -149 ≤ e)
    (hx : x = ⟨.pack (.finite .positive m e h)⟩) : IsPositive x := by
  unfold IsPositive
  rw [hx, unpack_pack_finite h hm he]
  split
  · exact .inl rfl
  · exact .inr ⟨_, _, h, rfl⟩

theorem isNonneg_round {m : Nat} {e : Int} {a : UnpackedFloat.Accuracy}
    (hx : x = ⟨.pack (.roundWithAccuracy .binary32 .positive m e a)⟩) : IsNonneg x := by
  rcases roundWithAccuracy_cases .positive m e a with hround | ⟨n, f, h, hround, hn, hf⟩
  · refine .inl ?_
    rw [hx, hround, unpack_pack_zero]
  · rw [hround] at hx
    exact .inr (isPositive_pack h hn hf hx)

theorem isNonneg_mul_self (h : x.isNaN = false) : IsNonneg (x * x) := by
  have hmul : x * x = ⟨.pack (x.toModel.unpack.mul .binary32 x.toModel.unpack)⟩ := rfl
  change x.toModel.unpack.isNaN = false at h
  cases hx : x.toModel.unpack with
  | notANumber =>
    rw [hx] at h
    contradiction
  | infinity s =>
    rw [hmul, hx]
    cases s <;> exact .inr (.inl rfl)
  | zero s =>
    rw [hmul, hx]
    cases s <;> exact .inl rfl
  | finite s m e hm =>
    rw [hx] at hmul
    cases s <;> exact isNonneg_round hmul

theorem exists_add_eq_round {m n : Nat} {e f : Int} (hm : 0 < m) (hn : 0 < n) :
    ∃ k g, UnpackedFloat.add .binary32 (.finite .positive m e hm) (.finite .positive n f hn) =
      .roundWithAccuracy .binary32 .positive k g .exact := by
  have hpos : 0 < m <<< (e - min e f).toNat + n <<< (f - min e f).toNat := by
    rw [Nat.shiftLeft_eq, Nat.shiftLeft_eq]
    exact Nat.add_pos_left (Nat.mul_pos hm (Nat.two_pow_pos _)) _
  have hcompare : compare (((m <<< (e - min e f).toNat : Nat) : Int) +
      (n <<< (f - min e f).toNat : Nat)) 0 = .gt := by
    rw [compare_gt_iff_gt]
    omega
  simp only [UnpackedFloat.add, UnpackedFloat.decreaseExponent, UnpackedFloat.Sign.apply,
    UnpackedFloat.normalize, hcompare]
  exact ⟨_, _, rfl⟩

theorem IsNonneg.add (hx : IsNonneg x) (hy : IsNonneg y) : IsNonneg (x + y) := by
  have hadd : x + y = ⟨.pack (x.toModel.unpack.add .binary32 y.toModel.unpack)⟩ := rfl
  rcases hx with hx | hx | ⟨m, e, hm, hx⟩
  · rcases hy with hy | hy | ⟨n, f, hn, hy⟩
    · rw [hadd, hx, hy]
      exact .inl rfl
    · rw [hadd, hx, hy]
      exact .inr (.inl (unpack_pack_infinity .positive))
    · rw [hx, hy] at hadd
      obtain ⟨hbound, hlow, -⟩ := bounds_of_unpack hy
      exact .inr (isPositive_pack hn hbound hlow hadd)
  · rw [hadd, hx]
    rcases hy with hy | hy | ⟨n, f, hn, hy⟩ <;> rw [hy] <;>
      exact .inr (.inl (unpack_pack_infinity .positive))
  · rcases hy with hy | hy | ⟨n, f, hn, hy⟩
    · rw [hx, hy] at hadd
      obtain ⟨hbound, hlow, -⟩ := bounds_of_unpack hx
      exact .inr (isPositive_pack hm hbound hlow hadd)
    · rw [hadd, hx, hy]
      exact .inr (.inl (unpack_pack_infinity .positive))
    · rw [hx, hy] at hadd
      obtain ⟨k, g, hround⟩ := exists_add_eq_round (e := e) (f := f) hm hn
      rw [hround] at hadd
      exact isNonneg_round hadd

/-! ### Square roots and quotients -/

theorem isInf_iff : x.isInf = true ↔ ∃ s, x.toModel.unpack = .infinity s := by
  change x.toModel.unpack.isInf = true ↔ _
  cases x.toModel.unpack <;> simp [UnpackedFloat.isInf]

theorem unpack_sqrt :
    x.sqrt.toModel.unpack = (Float32.Model.pack (.sqrt .binary32 x.toModel.unpack)).unpack := rfl

theorem unpack_mul : (x * y).toModel.unpack =
    (Float32.Model.pack (.mul .binary32 x.toModel.unpack y.toModel.unpack)).unpack := rfl

theorem unpack_div : (x / y).toModel.unpack =
    (Float32.Model.pack (.div .binary32 x.toModel.unpack y.toModel.unpack)).unpack := rfl

theorem unpack_sqrt_infinity (h : x.toModel.unpack = .infinity .positive) :
    x.sqrt.toModel.unpack = .infinity .positive := by
  rw [unpack_sqrt, h]
  rfl

variable {m n : Nat} {e f : Int} {hm : 0 < m} {hn : 0 < n}

/-- A square root is packed without loss. -/
theorem unpack_sqrt_finite (hx : x.toModel.unpack = .finite .positive m e hm) :
    x.sqrt.toModel.unpack = .sqrt .binary32 (.finite .positive m e hm) := by
  obtain ⟨hbound, he, he'⟩ := bounds_of_unpack hx
  obtain ⟨r, t, hr, hsqrt, hlow, hhigh, ht, ht', -⟩ := exists_sqrt_eq hm hbound he he'
  rw [unpack_sqrt, hx, hsqrt, unpack_pack_finite hr hhigh (by omega), if_neg (by omega),
    if_pos hlow]

theorem exists_unpack_sqrt (hx : x.toModel.unpack = .finite .positive m e hm) :
    ∃ r t hr, x.sqrt.toModel.unpack = .finite .positive r t hr := by
  obtain ⟨hbound, he, he'⟩ := bounds_of_unpack hx
  obtain ⟨r, t, hr, hsqrt, -⟩ := exists_sqrt_eq hm hbound he he'
  exact ⟨r, t, hr, (unpack_sqrt_finite hx).trans hsqrt⟩

/-- A product of square roots of numbers that are not infinite is not, either. -/
theorem exists_unpack_mul_sqrt (hx : x.toModel.unpack = .finite .positive m e hm)
    (hy : y.toModel.unpack = .finite .positive n f hn) :
    ∃ r t hr, (x.sqrt * y.sqrt).toModel.unpack = .finite .positive r t hr := by
  obtain ⟨hbound, he, he'⟩ := bounds_of_unpack hx
  obtain ⟨hbound', hf, hf'⟩ := bounds_of_unpack hy
  obtain ⟨r, t, hr, hmul, hlt, hlow, hhigh⟩ :=
    mul_sqrt_finite hm hn hbound hbound' he he' hf hf'
  rw [unpack_mul, unpack_sqrt_finite hx, unpack_sqrt_finite hy, hmul,
    unpack_pack_finite hr hlt hlow, if_neg (by omega)]
  exact ⟨r, _, hr, rfl⟩

/-- The product of the square roots of two numbers is infinite only if one of them is. -/
theorem IsPositive.sqrt_mul_sqrt (hx : IsPositive x) (hy : IsPositive y) :
    IsPositive (x.sqrt * y.sqrt) ∧
      ((x.sqrt * y.sqrt).isInf = true ↔ x.isInf = true ∨ y.isInf = true) := by
  rcases hx with hx | ⟨m, e, hm, hx⟩
  · have hinf : (x.sqrt * y.sqrt).toModel.unpack = .infinity .positive := by
      rw [unpack_mul, unpack_sqrt_infinity hx]
      rcases hy with hy | ⟨n, f, hn, hy⟩
      · rw [unpack_sqrt_infinity hy]
        rfl
      · obtain ⟨r, t, hr, hsqrt⟩ := exists_unpack_sqrt hy
        rw [hsqrt]
        exact unpack_pack_infinity .positive
    exact ⟨.inl hinf, iff_of_true (isInf_iff.mpr ⟨_, hinf⟩) (.inl (isInf_iff.mpr ⟨_, hx⟩))⟩
  · rcases hy with hy | ⟨n, f, hn, hy⟩
    · have hinf : (x.sqrt * y.sqrt).toModel.unpack = .infinity .positive := by
        obtain ⟨r, t, hr, hsqrt⟩ := exists_unpack_sqrt hx
        rw [unpack_mul, unpack_sqrt_infinity hy, hsqrt]
        exact unpack_pack_infinity .positive
      exact ⟨.inl hinf, iff_of_true (isInf_iff.mpr ⟨_, hinf⟩) (.inr (isInf_iff.mpr ⟨_, hy⟩))⟩
    · obtain ⟨r, t, hr, hmul⟩ := exists_unpack_mul_sqrt hx hy
      refine ⟨.inr ⟨r, t, hr, hmul⟩, ?_⟩
      simp [isInf_iff, hx, hy, hmul]

theorem unpack_round_ne_notANumber {s : UnpackedFloat.Sign} {a : UnpackedFloat.Accuracy} :
    (Float32.Model.pack (.roundWithAccuracy .binary32 s m e a)).unpack ≠ .notANumber := by
  rcases roundWithAccuracy_cases s m e a with hround | ⟨n, f, hn, hround, hlt, hlow⟩
  · rw [hround, unpack_pack_zero]
    simp
  · rw [hround, unpack_pack_finite hn hlt hlow]
    split <;> simp

/-- A quotient of numbers by a positive one is a number unless both are infinite. -/
theorem isNaN_div_iff (hy : IsPositive y) :
    (x / y).isNaN = true ↔ x.isNaN = true ∨ x.isInf = true ∧ y.isInf = true := by
  simp only [isNaN_iff, isInf_iff, unpack_div]
  cases hx : x.toModel.unpack with
  | notANumber => simp [UnpackedFloat.div, unpack_pack_notANumber]
  | infinity s =>
    rcases hy with hy | ⟨n, f, hn, hy⟩ <;> rw [hy]
    · simp [UnpackedFloat.div, unpack_pack_notANumber]
    · simp [UnpackedFloat.div, unpack_pack_infinity]
  | zero s =>
    rcases hy with hy | ⟨n, f, hn, hy⟩ <;> rw [hy] <;> simp [UnpackedFloat.div, unpack_pack_zero]
  | finite s m e hm =>
    rcases hy with hy | ⟨n, f, hn, hy⟩ <;> rw [hy]
    · simp [UnpackedFloat.div, unpack_pack_zero]
    · simp [UnpackedFloat.div, unpack_round_ne_notANumber]

end NoteVault.Single
