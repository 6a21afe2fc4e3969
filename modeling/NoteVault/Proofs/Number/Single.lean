import Mathlib
import NoteVault.Number.Single

/-! Numbers of the 32 bit format are compared by a rank in a linear order, unless one of them is
not a number. -/

namespace NoteVault.Single

open Float.Model

theorem compare_natCast (m n : Nat) : compare (m : Int) n = compare m n := by
  simp only [compare, compareOfLessAndEq, Int.ofNat_lt, Int.ofNat_inj]

theorem compare_neg (m n : Int) : compare (-m) (-n) = (compare m n).swap := by
  rw [← Std.OrientedCmp.eq_swap]
  simp only [compare, compareOfLessAndEq, Int.neg_lt_neg_iff, Int.neg_inj, eq_comm]

/-- Where an unpacked number stands: by its sign and whether it is zero, finite or infinite, then by
its exponent and its significand. -/
def unpackedRank : UnpackedFloat → Int ×ₗ Int ×ₗ Int
  | .infinity .negative => toLex (-2, toLex (0, 0))
  | .finite .negative m e _ => toLex (-1, toLex (-e, -m))
  | .finite .positive m e _ => toLex (1, toLex (e, m))
  | .infinity .positive => toLex (2, toLex (0, 0))
  | .zero _ | .notANumber => toLex (0, toLex (0, 0))

theorem compare_unpacked {a b : UnpackedFloat} (ha : a.isNaN = false) (hb : b.isNaN = false) :
    a.compare b = some (compare (unpackedRank a) (unpackedRank b)) := by
  cases a with
  | notANumber => contradiction
  | infinity s =>
    cases b with
    | notANumber => contradiction
    | infinity t | zero t | finite t m e h => cases s <;> cases t <;> rfl
  | zero s =>
    cases b with
    | notANumber => contradiction
    | infinity t | zero t | finite t m e h => cases t <;> rfl
  | finite s m e h =>
    cases b with
    | notANumber => contradiction
    | infinity t | zero t => cases s <;> cases t <;> rfl
    | finite t n f h' =>
      -- Only numbers of one sign are told apart by their exponents and significands.
      cases s <;> cases t
      · simp [UnpackedFloat.compare, unpackedRank, Prod.Lex.compare_def, compareLex, compareOn,
          compare_neg, compare_natCast, Ordering.swap_then]
      · rfl
      · rfl
      · simp [UnpackedFloat.compare, unpackedRank, Prod.Lex.compare_def, compareLex, compareOn,
          compare_natCast]

/-- Where a number stands among the numbers; both zeros stand at one place. -/
def rank (x : Float32) : Int ×ₗ Int ×ₗ Int := unpackedRank x.toModel.unpack

variable {x y : Float32}

theorem lt_iff_compare : x < y ↔ x.toModel.unpack.compare y.toModel.unpack = some .lt := by
  change decide (x.toModel < y.toModel) = true ↔ _
  rw [decide_eq_true_iff]
  exact beq_iff_eq

theorem le_iff_compare : x ≤ y ↔ ∃ o ∈ x.toModel.unpack.compare y.toModel.unpack, o.isLE := by
  change decide (x.toModel ≤ y.toModel) = true ↔ _
  rw [decide_eq_true_iff]
  exact Option.any_eq_true _ _

theorem beq_iff_compare : x == y ↔ x.toModel.unpack.compare y.toModel.unpack = some .eq := by
  change (x.toModel.unpack.compare y.toModel.unpack == some .eq) = true ↔ _
  exact beq_iff_eq

theorem lt_iff_rank (hx : x.isNaN = false) (hy : y.isNaN = false) : x < y ↔ rank x < rank y := by
  rw [lt_iff_compare, compare_unpacked hx hy, Option.some_inj, compare_lt_iff_lt]
  rfl

theorem le_iff_rank (hx : x.isNaN = false) (hy : y.isNaN = false) : x ≤ y ↔ rank x ≤ rank y := by
  rw [le_iff_compare, compare_unpacked hx hy]
  simp [Ordering.isLE_iff_ne_gt, compare_le_iff_le, rank]

theorem beq_iff_rank (hx : x.isNaN = false) (hy : y.isNaN = false) : x == y ↔ rank x = rank y := by
  rw [beq_iff_compare, compare_unpacked hx hy, Option.some_inj, compare_eq_iff_eq]
  rfl

theorem compare_notANumber (a : UnpackedFloat) : a.compare .notANumber = none := by
  cases a <;> rfl

theorem isNaN_iff : x.isNaN = true ↔ x.toModel.unpack = .notANumber :=
  UnpackedFloat.isNaN_iff

theorem isNaN_eq_false_of_isFinite (h : x.isFinite = true) : x.isNaN = false := by
  rw [Bool.eq_false_iff]
  intro hnan
  change x.toModel.unpack.isFinite = true at h
  rw [isNaN_iff.mp hnan] at h
  contradiction

/-- Nothing is known to be below what is not a number. -/
theorem not_le_of_isNaN (hy : y.isNaN = true) : ¬x ≤ y := by
  rw [le_iff_compare, isNaN_iff.mp hy, compare_notANumber]
  simp

/-- A number that is not below a bound is at least the bound, or is not a number. -/
theorem le_iff_not_lt (hx : x.isNaN = false) : x ≤ y ↔ ¬y < x ∧ y.isNaN = false := by
  cases hy : y.isNaN with
  | true => simp [not_le_of_isNaN hy]
  | false => simp [le_iff_rank hx hy, lt_iff_rank hy hx]

end NoteVault.Single
