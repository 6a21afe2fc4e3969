import Mathlib.Data.Set.Defs
import NoteVault.Proofs.Text.Order
import NoteVault.Value.Coercion

/-! The order of values by which notes are sorted and filters compare. Two numbers are compared as
numbers and all else as texts, so that it is a preorder only where no text tears numbers apart. -/

namespace NoteVault.Value

variable {a b c : Option Value} {x y z : Binary64}

theorem compare_of_numbers (ha : finite? a = some x) (hb : finite? b = some y) :
    compare a b = Ord.compare x.rank y.rank := by
  simp only [compare, ha, hb]

theorem compare_of_left (ha : finite? a = none) (b : Option Value) :
    compare a b = Text.order (displayText a) (displayText b) := by
  simp only [compare, ha]

theorem compare_of_right (a : Option Value) (hb : finite? b = none) :
    compare a b = Text.order (displayText a) (displayText b) := by
  cases ha : finite? a with
  | none => exact compare_of_left ha b
  | some x => simp only [compare, ha, hb]

theorem compare_numbers_ne_gt_iff (ha : finite? a = some x) (hb : finite? b = some y) :
    compare a b ≠ .gt ↔ x.rank ≤ y.rank := by
  rw [compare_of_numbers ha hb, Int.compare_ne_gt]

theorem compare_swap (a b : Option Value) : compare b a = (compare a b).swap := by
  cases ha : finite? a with
  | none => rw [compare_of_left ha, compare_of_right b ha, Text.order_swap]
  | some x =>
    cases hb : finite? b with
    | none => rw [compare_of_left hb, compare_of_right a hb, Text.order_swap]
    | some y =>
      rw [compare_of_numbers ha hb, compare_of_numbers hb ha]
      exact Std.OrientedOrd.eq_swap

theorem looselyEqual_eq_compare (a b : Option Value) : looselyEqual a b = (compare a b == .eq) := by
  have htext : (displayText a == displayText b) =
      (Text.order (displayText a) (displayText b) == .eq) := by
    rw [Bool.eq_iff_iff, beq_iff_eq, beq_iff_eq, Text.order_eq_iff]
  cases ha : finite? a with
  | none =>
    rw [compare_of_left ha, ← htext]
    simp only [looselyEqual, ha]
  | some x =>
    cases hb : finite? b with
    | none =>
      rw [compare_of_right a hb, ← htext]
      simp only [looselyEqual, ha, hb]
    | some y =>
      rw [compare_of_numbers ha hb, Bool.eq_iff_iff, beq_iff_eq, Std.compare_eq_iff_eq]
      simp only [looselyEqual, ha, hb, Binary64.same, beq_iff_eq]

/-- The text of a value that is no number stands between those of two numbers, which as numbers are
in the other order, or equal though their texts differ. -/
def Torn (a b t : Option Value) : Prop :=
  ∃ x y, finite? a = some x ∧ finite? b = some y ∧ finite? t = none ∧ x.rank ≤ y.rank ∧
    Text.order (displayText b) (displayText t) ≠ .gt ∧
    Text.order (displayText t) (displayText a) ≠ .gt ∧
    (x.rank = y.rank → displayText a ≠ displayText b)

theorem exists_torn_of_gt (hab : compare a b ≠ .gt) (hbc : compare b c ≠ .gt)
    (hac : compare a c = .gt) : Torn c a b ∨ Torn b c a ∨ Torn a b c := by
  cases ha : finite? a with
  | none =>
    rw [compare_of_left ha] at hab hac
    cases hb : finite? b with
    | none =>
      rw [compare_of_left hb] at hbc
      exact absurd hac (Text.order_ne_gt_trans hab hbc)
    | some y =>
      cases hc : finite? c with
      | none =>
        rw [compare_of_right b hc] at hbc
        exact absurd hac (Text.order_ne_gt_trans hab hbc)
      | some z =>
        have hyz := (compare_numbers_ne_gt_iff hb hc).mp hbc
        refine .inr (.inl ⟨y, z, hb, hc, ha, hyz, Text.order_ne_gt_of_gt hac, hab, ?_⟩)
        intro _ heq
        rw [heq] at hab
        exact hab hac
  | some x =>
    cases hc : finite? c with
    | none =>
      rw [compare_of_right a hc] at hac
      rw [compare_of_right b hc] at hbc
      cases hb : finite? b with
      | none =>
        rw [compare_of_right a hb] at hab
        exact absurd hac (Text.order_ne_gt_trans hab hbc)
      | some y =>
        have hxy := (compare_numbers_ne_gt_iff ha hb).mp hab
        refine .inr (.inr ⟨x, y, ha, hb, hc, hxy, hbc, Text.order_ne_gt_of_gt hac, ?_⟩)
        intro _ heq
        rw [heq] at hac
        exact hbc hac
    | some z =>
      have hxz : ¬ x.rank ≤ z.rank := fun hle => (compare_numbers_ne_gt_iff ha hc).mpr hle hac
      cases hb : finite? b with
      | none =>
        rw [compare_of_right a hb] at hab
        rw [compare_of_left hb] at hbc
        exact .inl ⟨z, x, hc, ha, hb, by omega, hab, hbc, by omega⟩
      | some y =>
        have hxy := (compare_numbers_ne_gt_iff ha hb).mp hab
        have hyz := (compare_numbers_ne_gt_iff hb hc).mp hbc
        omega

/-- If the order were transitive, the two numbers would be equal and so would all three texts. -/
theorem Torn.not_trans {S : Set (Option Value)}
    (htrans : ∀ a ∈ S, ∀ b ∈ S, ∀ c ∈ S, compare a b ≠ .gt → compare b c ≠ .gt → compare a c ≠ .gt)
    (ha : a ∈ S) (hb : b ∈ S) (hc : c ∈ S) : ¬ Torn a b c := by
  rintro ⟨x, y, hx, hy, hnone, hxy, hbt, hta, hne⟩
  have hab := (compare_numbers_ne_gt_iff hx hy).mpr hxy
  rw [← compare_of_right b hnone] at hbt
  rw [← compare_of_left hnone] at hta
  have hba := htrans b hb c hc a ha hbt hta
  have heq : x.rank = y.rank := by
    have := (compare_numbers_ne_gt_iff hy hx).mp hba
    omega
  have hat := htrans a ha b hb c hc hab hbt
  have htb := htrans c hc a ha b hb hta hab
  rw [compare_of_right _ hnone] at hat hbt
  rw [compare_of_left hnone] at hta htb
  apply hne heq
  rw [Text.eq_of_order_ne_gt hat hta, Text.eq_of_order_ne_gt htb hbt]

/-- The order of two values is reversed with them. Among the values of a set it is transitive
exactly if none of them tears two numbers apart. -/
theorem compare_preorder_iff_not_torn :
    (∀ a b : Option Value, compare b a = (compare a b).swap) ∧
      ∀ S : Set (Option Value),
        (∀ a ∈ S, ∀ b ∈ S, ∀ c ∈ S,
          compare a b ≠ .gt → compare b c ≠ .gt → compare a c ≠ .gt) ↔
        ∀ a ∈ S, ∀ b ∈ S, ∀ t ∈ S, ¬ Torn a b t := by
  refine ⟨compare_swap, fun S => ⟨?_, ?_⟩⟩
  · intro htrans a ha b hb t ht
    exact Torn.not_trans htrans ha hb ht
  · intro hfree a ha b hb c hc hab hbc hac
    rcases exists_torn_of_gt hab hbc hac with h | h | h
    · exact hfree c hc a ha b hb h
    · exact hfree b hb c hc a ha h
    · exact hfree a ha b hb c hc h

/-- As a text `1a` stands between `10` and `9`. -/
theorem compare_gt_of_between :
    compare (some (.int 10)) (some (.text "1a")) = .lt ∧
      compare (some (.text "1a")) (some (.int 9)) = .lt ∧
      compare (some (.int 10)) (some (.int 9)) = .gt := by
  decide

end NoteVault.Value
