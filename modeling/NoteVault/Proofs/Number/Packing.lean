import Mathlib
import NoteVault.Number.Single

/-! A number of 32 bits after it has been packed: it is what it was, unless it is too large. -/

namespace NoteVault.Single

open Float.Model UnpackedFloat

theorem unpack_pack_infinity (s : Sign) :
    (Float32.Model.pack (.infinity s)).unpack = .infinity s := by
  cases s <;> rfl

theorem unpack_pack_zero (s : Sign) : (Float32.Model.pack (.zero s)).unpack = .zero s := by
  cases s <;> rfl

theorem unpack_pack_notANumber : (Float32.Model.pack .notANumber).unpack = .notANumber := rfl

theorem exponentBias_eq : Float.Model.Format.binary32.exponentBias = 127 := by decide

theorem unpack_subnormal {s : Sign} {m : BitVec 23} (h : 0 < m.toNat) :
    unpack .binary32 (packComponents .binary32 s 0#8 m) = .finite s m.toNat (-149) h := by
  have hm : m ≠ 0#23 := by
    rintro rfl
    contradiction
  simp only [UnpackedFloat.unpack, unpackExponent_packComponents, unpackMantissa_packComponents,
    unpackSign_packComponents, Sign.ofBitVec_toBitVec, exponentBias_eq]
  simp [hm]

theorem toNat_one_append (m : BitVec 23) : (1#1 ++ m).toNat = 2 ^ 23 + m.toNat := by
  rw [BitVec.toNat_append, ← Nat.shiftLeft_add_eq_or_of_lt m.isLt]
  rfl

theorem unpack_normal {s : Sign} {e : BitVec 8} {m : BitVec 23} (hzero : 0 < e.toNat)
    (hinf : e.toNat < 255) :
    unpack .binary32 (packComponents .binary32 s e m) =
      .finite s (2 ^ 23 + m.toNat) (e.toNat - 150) (by omega) := by
  have he : e ≠ 0#8 := by
    rintro rfl
    contradiction
  have he' : e ≠ -1#8 := by
    rintro rfl
    contradiction
  simp only [UnpackedFloat.unpack, unpackExponent_packComponents, unpackMantissa_packComponents,
    unpackSign_packComponents, Sign.ofBitVec_toBitVec, exponentBias_eq, if_neg he, if_neg he']
  congr 1
  exact toNat_one_append m

/-- Only a number with the least exponent has a significand of less than 24 bits. -/
theorem unpack_pack_finite {s : Sign} {m : Nat} {e : Int} (h : 0 < m) (hm : m < 2 ^ 24)
    (he : -149 ≤ e) :
    (Float32.Model.pack (.finite s m e h)).unpack =
      if 104 < e then .infinity s else .finite s m (if 2 ^ 23 ≤ m then e else -149) h := by
  change UnpackedFloat.unpack .binary32 (UnpackedFloat.pack .binary32 (.finite s m e h)) = _
  unfold UnpackedFloat.pack
  dsimp only
  rw [exponentBias_eq]
  by_cases hlarge : 104 < e
  · rw [if_pos hlarge, if_pos (by omega)]
    exact unpack_pack_infinity s
  · have hfield : (BitVec.ofNat 8 (e + (127 : Nat) + (23 : Nat)).toNat).toNat =
        (e + 150).toNat := by
      rw [BitVec.toNat_ofNat]
      omega
    rw [if_neg hlarge, if_neg (by omega)]
    by_cases hnormal : 2 ^ 23 ≤ m
    · have hlog : m.log2 + 1 = Float.Model.Format.binary32.mantissaBits := by
        rw [(Nat.log2_eq_iff (Nat.ne_of_gt h)).mpr ⟨hnormal, hm⟩]
        rfl
      rw [if_pos hlog, if_pos hnormal]
      refine (unpack_normal ?_ ?_).trans ?_
      · omega
      · omega
      · congr 1
        · simp
          omega
        · omega
    · have hlog : m.log2 + 1 ≠ Float.Model.Format.binary32.mantissaBits := by
        intro heq
        have h23 : m.log2 = 23 := Nat.succ.inj heq
        exact hnormal ((Nat.log2_eq_iff (Nat.ne_of_gt h)).mp h23).1
      have hnat : (BitVec.ofNat 23 m).toNat = m := by
        rw [BitVec.toNat_ofNat]
        omega
      rw [if_neg hlog, if_neg hnormal]
      refine (unpack_subnormal (by omega)).trans ?_
      congr 1

theorem bounds_of_unpack {x : Float32} {s : Sign} {m : Nat} {e : Int} {h : 0 < m}
    (hx : x.toModel.unpack = .finite s m e h) : m < 2 ^ 24 ∧ -149 ≤ e ∧ e ≤ 104 := by
  let fraction : BitVec 23 := @unpackMantissa .binary32 x.toBits.toBitVec
  let field : BitVec 8 := @unpackExponent .binary32 x.toBits.toBitVec
  have hfraction : fraction.toNat < 2 ^ 23 := fraction.isLt
  have hfield : field.toNat < 2 ^ 8 := field.isLt
  change unpack .binary32 x.toBits.toBitVec = _ at hx
  simp only [UnpackedFloat.unpack, exponentBias_eq] at hx
  split at hx
  · split at hx <;> contradiction
  · next hinf =>
    have hlast : field.toNat ≠ 255 := fun heq => hinf (BitVec.eq_of_toNat_eq heq)
    split at hx
    · next hzero =>
      split at hx
      · contradiction
      · obtain ⟨-, hm, he⟩ := UnpackedFloat.finite.inj hx
        have hnone : field.toNat = 0 := congrArg BitVec.toNat hzero
        change fraction.toNat = m at hm
        change (field.toNat : Int) - 150 + 1 = e at he
        omega
    · next hzero =>
      obtain ⟨-, hm, he⟩ := UnpackedFloat.finite.inj hx
      have hsome : field.toNat ≠ 0 := fun heq => hzero (BitVec.eq_of_toNat_eq heq)
      rw [toNat_one_append] at hm
      change 2 ^ 23 + fraction.toNat = m at hm
      change (field.toNat : Int) - 150 = e at he
      omega

end NoteVault.Single
