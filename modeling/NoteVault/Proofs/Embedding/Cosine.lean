import NoteVault.Proofs.Embedding.Search
import NoteVault.Proofs.Number.Positive

/-! The cosine of two vectors of numbers is a number as well, unless the sums it is computed from
grow too large. A cosine that is not a number is not below the least score that is wanted. -/

namespace NoteVault.Embedding

open Single

variable {a b : List Float32} {score : Float32}

theorem isNonneg_dot_self (ha : ∀ x ∈ a, x.isNaN = false) : IsNonneg (dot a a) := by
  have hzip : a.zip a = a.map fun x => (x, x) := by
    simpa using (List.map_prod_left_eq_zip (l := a) (f := id)).symm
  refine List.foldlRecOn (a.zip a) _ isNonneg_zero fun sum hsum pair hpair => ?_
  rw [hzip] at hpair
  obtain ⟨x, hx, rfl⟩ := List.mem_map.mp hpair
  exact hsum.add (isNonneg_mul_self (ha x hx))

/-- Whether the sums of products of two vectors grow so large that there is no quotient of them. -/
def Overflows (a b : List Float32) : Prop :=
  (dot a b).isNaN = true ∨
    (dot a b).isInf = true ∧ ((dot a a).isInf = true ∨ (dot b b).isInf = true)

theorem isNaN_cosine_iff (ha : ∀ x ∈ a, x.isNaN = false) (hb : ∀ x ∈ b, x.isNaN = false)
    (hscore : cosine? a b = some score) : score.isNaN = true ↔ Overflows a b := by
  unfold cosine? at hscore
  split at hscore
  · contradiction
  · dsimp only at hscore
    split at hscore
    · contradiction
    · next hzero =>
      rw [Bool.or_eq_true, not_or, Bool.not_eq_true, Bool.not_eq_true] at hzero
      obtain ⟨hpos, hinf⟩ := ((isNonneg_dot_self ha).isPositive hzero.1).sqrt_mul_sqrt
        ((isNonneg_dot_self hb).isPositive hzero.2)
      obtain rfl := Option.some.inj hscore
      rw [isNaN_div_iff hpos, hinf, Overflows]

variable {es : List Embedding} {query : List Float32} {o : SearchOptions} {least : Float32}

/-- A hit has the least score that is wanted exactly if its cosine did not overflow. -/
theorem least_le_score_iff [Sorting.Sorter] (hes : ∀ e ∈ es, ∀ x ∈ e.vector, x.isFinite = true)
    (hquery : ∀ x ∈ query, x.isFinite = true) (hleast : least.isFinite = true)
    (ho : o.minScore = some least) {hits : List Hit} (hok : search es query o = .ok hits) :
    ∀ h ∈ hits, ∃ e ∈ es, Shows query e h ∧ (least ≤ h.score ↔ ¬Overflows e.vector query) := by
  intro h hh
  obtain ⟨e, he, heligible, hshows⟩ := exists_of_mem_search hok hh
  obtain ⟨score, hscore, hadmits⟩ := heligible.score
  obtain rfl := Option.some.inj (hscore.symm.trans hshows.score)
  have hnot : ¬h.score < least := hadmits least ho
  have hoverflows := isNaN_cosine_iff (fun x hx => isNaN_eq_false_of_isFinite (hes e he x hx))
    (fun x hx => isNaN_eq_false_of_isFinite (hquery x hx)) hscore
  refine ⟨e, he, hshows, ?_⟩
  rw [le_iff_not_lt (isNaN_eq_false_of_isFinite hleast), ← hoverflows, Bool.not_eq_true]
  exact and_iff_right hnot

theorem least_le_score_iff_far :
    let es : List Embedding := [⟨"a.md".toList, [3, 4], none⟩, ⟨"b.md".toList, [0, 1], none⟩,
      ⟨"c.md".toList, [Single.ofRatio false (10 ^ 38) 1, 0], none⟩]
    let query : List Float32 := [1000, 0]
    let o : SearchOptions := { minScore := some 0.5 }
    (∀ e ∈ es, ∀ x ∈ e.vector, x.isFinite = true) ∧ (∀ x ∈ query, x.isFinite = true) ∧
      (0.5 : Float32).isFinite = true ∧
      ∃ hits, search es query o = .ok hits ∧
        hits.map (fun h => (h.path, decide (0.5 ≤ h.score))) =
          [("a.md".toList, true), ("c.md".toList, false)] ∧
        ∀ h ∈ hits, ∃ e ∈ es, Shows query e h ∧ (0.5 ≤ h.score ↔ ¬Overflows e.vector query) := by
  intro es query o
  have hes : ∀ e ∈ es, ∀ x ∈ e.vector, x.isFinite = true := by decide +kernel
  have hquery : ∀ x ∈ query, x.isFinite = true := by decide +kernel
  have hleast : (0.5 : Float32).isFinite = true := by decide +kernel
  have hfound : (search es query o).toOption.map
      (·.map fun h => (h.path, decide (0.5 ≤ h.score))) =
        some [("a.md".toList, true), ("c.md".toList, false)] := by decide +kernel
  obtain ⟨hits, hok⟩ : ∃ hits, search es query o = .ok hits :=
    ⟨_, search_eq_ok_iff.mpr ⟨_, rfl, rfl⟩⟩
  rw [hok] at hfound
  exact ⟨hes, hquery, hleast, hits, hok, Option.some.inj hfound,
    least_le_score_iff hes hquery hleast rfl hok⟩

/-- The square of a large number is infinite, and infinity has no quotient by itself. -/
theorem not_least_le_score_overflow :
    let x := Single.ofRatio false (10 ^ 30) 1
    let o : SearchOptions := { minScore := some 0.5 }
    x.isFinite = true ∧ (0.5 : Float32).isFinite = true ∧
      ¬∀ hits, search [⟨"a.md".toList, [x], none⟩] [x] o = .ok hits →
        ∀ h ∈ hits, (0.5 : Float32) ≤ h.score := by
  intro x o
  refine ⟨by decide +kernel, by decide +kernel, fun hall => ?_⟩
  have hle := hall _ (search_eq_ok_iff.mpr ⟨_, rfl, rfl⟩)
  revert hle
  decide +kernel

end NoteVault.Embedding
