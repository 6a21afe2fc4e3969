import NoteVault.Proofs.Filter.Precedence

/-! What a text is read as, with the checks that it passed on the way. A warning of a statement is
about a shorter text in it, unless the text as a whole is none. -/

namespace NoteVault

/-- A text that no connective splits. -/
structure IsWhole (s : Text) : Prop where
  ne_nil : s ≠ []
  trimmed : Text.trim s = s
  disjunction : (Connective.disjunction.split s).length = 1
  conjunction : (Connective.conjunction.split s).length = 1

theorem Connective.length_split_pos (k : Connective) (s : Text) : 0 < (k.split s).length := by
  rw [split, List.length_map]
  exact List.length_pos_iff.mpr (pieces_ne_nil k none s)

namespace Condition

/-- The condition that a text writes, and why. -/
inductive Reads (s : Text) : Condition → Prop
  | pass (h : Text.trim s = []) : Reads s .pass
  | any (hne : Text.trim s ≠ []) (h : 1 < (Connective.disjunction.split (Text.trim s)).length) :
      Reads s (.any ((Connective.disjunction.split (Text.trim s)).map ofText))
  | all (hne : Text.trim s ≠ []) (h : (Connective.disjunction.split (Text.trim s)).length = 1)
      (h' : 1 < (Connective.conjunction.split (Text.trim s)).length) :
      Reads s (.all ((Connective.conjunction.split (Text.trim s)).map ofText))
  | not {r : Text} (h : IsWhole (Text.trim s)) (hr : negated? (Text.trim s) = some r) :
      Reads s (.not (ofText r))
  | predicate {p : Predicate} (h : IsWhole (Text.trim s)) (hr : negated? (Text.trim s) = none)
      (hp : Predicate.ofText? (Text.trim s) = some p) : Reads s (.predicate p)
  | unrecognized (h : IsWhole (Text.trim s)) (hr : negated? (Text.trim s) = none)
      (hp : Predicate.ofText? (Text.trim s) = none) : Reads s (.unrecognized (Text.trim s))

theorem reads_ofText (s : Text) : Reads s (ofText s) := by
  have hdisjunction := Connective.disjunction.length_split_pos (Text.trim s)
  have hconjunction := Connective.conjunction.length_split_pos (Text.trim s)
  by_cases hne : Text.trim s = []
  · have hpass : ofText s = .pass := by
      rw [ofText]
      simp [hne]
    rw [hpass]
    exact .pass hne
  by_cases hany : 1 < (Connective.disjunction.split (Text.trim s)).length
  · have heq : ofText s = .any ((Connective.disjunction.split (Text.trim s)).map ofText) := by
      rw [ofText]
      simp [hne, hany]
    rw [heq]
    exact .any hne hany
  by_cases hall : 1 < (Connective.conjunction.split (Text.trim s)).length
  · have heq : ofText s = .all ((Connective.conjunction.split (Text.trim s)).map ofText) := by
      rw [ofText]
      simp [hne, hany, hall]
    rw [heq]
    exact .all hne (by omega) hall
  have hwhole : IsWhole (Text.trim s) := ⟨hne, Text.trim_trim s, by omega, by omega⟩
  rw [ofText]
  simp only [List.isEmpty_iff, hne, hany, hall, if_false]
  split
  · next r hr => exact .not hwhole hr
  · next hr =>
    split
    · next p hp => exact .predicate hwhole hr hp
    · next hp => exact .unrecognized hwhole hr hp

variable {n : Note} {fs : Formulas} {s t u r : Text}

/-- What a whole text writes is decided by its negation and by the readers of predicates. -/
theorem ofText_of_isWhole (h : IsWhole s) :
    ofText s =
      match negated? s, Predicate.ofText? s with
      | some r, _ => .not (ofText r)
      | none, some p => .predicate p
      | none, none => .unrecognized s := by
  have hreads := reads_ofText s
  generalize ofText s = c at hreads ⊢
  cases hreads with
  | pass hnil => exact absurd (h.trimmed.symm.trans hnil) h.ne_nil
  | any _ hany =>
    rw [h.trimmed, h.disjunction] at hany
    omega
  | all _ _ hall =>
    rw [h.trimmed, h.conjunction] at hall
    omega
  | not _ hr =>
    rw [h.trimmed] at hr
    rw [hr]
  | predicate _ hr hp =>
    rw [h.trimmed] at hr hp
    rw [hr, hp]
  | unrecognized _ hr hp =>
    rw [h.trimmed] at hr hp
    rw [hr, hp, h.trimmed]

theorem ofText_not (h : IsWhole s) (hr : negated? s = some r) : ofText s = .not (ofText r) := by
  rw [ofText_of_isWhole h, hr]

theorem ofText_predicate {p : Predicate} (h : IsWhole s) (hr : negated? s = none)
    (hp : Predicate.ofText? s = some p) : ofText s = .predicate p := by
  rw [ofText_of_isWhole h, hr, hp]

theorem isWhole_of_unrecognized (h : ofText s = .unrecognized s) : IsWhole s := by
  have hreads := reads_ofText s
  generalize hc : ofText s = c at hreads
  cases hreads with
  | unrecognized hwhole _ _ =>
    rw [h] at hc
    rwa [← Condition.unrecognized.inj hc] at hwhole
  | _ =>
    rw [h] at hc
    contradiction

/-! ### Warnings -/

theorem warning_injective : Function.Injective warning := fun _ _ h => List.append_cancel_left h

/-- The warnings of a joined statement are those of the statements that are joined. -/
theorem exists_of_mem_warnings {ts : List Text} {w : Text}
    (hs : ofText s = .any (ts.map ofText) ∨ ofText s = .all (ts.map ofText))
    (h : w ∈ (evaluate n fs s).warnings) : ∃ t ∈ ts, w ∈ (evaluate n fs t).warnings := by
  have hmem : ∃ o ∈ outcomes n fs (ts.map ofText), w ∈ o.warnings := by
    rcases hs with hs | hs
    · rw [evaluate, hs, outcome, Outcome.warnings_any] at h
      obtain ⟨o, ho, hw⟩ := List.mem_flatMap.mp h
      exact ⟨o, mem_of_mem_upTo ho, hw⟩
    · rw [evaluate, hs, outcome, Outcome.warnings_all] at h
      obtain ⟨o, ho, hw⟩ := List.mem_flatMap.mp h
      exact ⟨o, mem_of_mem_upTo ho, hw⟩
  rw [outcomes_eq_map, List.map_map] at hmem
  obtain ⟨o, ho, hw⟩ := hmem
  obtain ⟨t, ht, rfl⟩ := List.mem_map.mp ho
  exact ⟨t, ht, hw⟩

/-- A warning is about a shorter text, or about the text as a whole. -/
theorem exists_of_warning {w : Text} (h : w ∈ (evaluate n fs s).warnings) :
    ∃ t, w = warning t ∧ (t.length < s.length ∨ ofText s = .unrecognized t ∧ t = Text.trim s) := by
  induction hn : s.length using Nat.strong_induction_on generalizing s w with
  | _ m ih =>
    have hle := Text.length_trim_le s
    have hparts : ∀ k : Connective, 1 < (k.split (Text.trim s)).length →
        (∃ t ∈ k.split (Text.trim s), w ∈ (evaluate n fs t).warnings) →
        ∃ t, w = warning t ∧ t.length < m := by
      rintro k hk ⟨p, hp, hw⟩
      have hlt := Connective.length_le_of_mem_split hp
      obtain ⟨t, rfl, ht⟩ := ih p.length (by omega) hw rfl
      refine ⟨t, rfl, ?_⟩
      rcases ht with ht | ⟨-, rfl⟩
      · omega
      · have htrim := Text.length_trim_le p
        omega
    have hreads := reads_ofText s
    generalize hc : ofText s = c at hreads
    cases hreads with
    | pass _ =>
      rw [evaluate, hc] at h
      contradiction
    | any _ hany =>
      obtain ⟨t, rfl, ht⟩ := hparts _ hany (exists_of_mem_warnings (.inl hc) h)
      exact ⟨t, rfl, .inl ht⟩
    | all _ _ hall =>
      obtain ⟨t, rfl, ht⟩ := hparts _ hall (exists_of_mem_warnings (.inr hc) h)
      exact ⟨t, rfl, .inl ht⟩
    | @not r _ hr =>
      have hlt := length_negated? hr
      rw [evaluate, hc] at h
      obtain ⟨t, rfl, ht⟩ := ih r.length (by omega) (s := r) h rfl
      refine ⟨t, rfl, .inl ?_⟩
      rcases ht with ht | ⟨-, rfl⟩
      · omega
      · have htrim := Text.length_trim_le r
        omega
    | predicate _ _ _ =>
      rw [evaluate, hc] at h
      contradiction
    | unrecognized _ _ _ =>
      rw [evaluate, hc] at h
      exact ⟨_, List.mem_singleton.mp h, .inr ⟨rfl, rfl⟩⟩

theorem length_le_of_warning (h : warning t ∈ (evaluate n fs s).warnings) :
    t.length ≤ s.length := by
  obtain ⟨t', hw, ht⟩ := exists_of_warning h
  obtain rfl := warning_injective hw
  rcases ht with ht | ⟨-, rfl⟩
  · omega
  · exact Text.length_trim_le s

theorem ofText_of_warning (h : warning s ∈ (evaluate n fs s).warnings) :
    ofText s = .unrecognized s := by
  obtain ⟨t, hw, ht⟩ := exists_of_warning h
  obtain rfl := warning_injective hw
  rcases ht with ht | ⟨ht, -⟩
  · omega
  · exact ht

end Condition

end NoteVault
