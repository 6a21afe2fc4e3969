import Mathlib.Data.List.DropRight
import NoteVault.Text.Blank

/-! Trimming as a condition on the first and the last character of a text. -/

namespace NoteVault.Text

/-- A text without blanks at its two ends. -/
def Trimmed (s : Text) : Prop :=
  (∀ c ∈ s.head?, isBlank c = false) ∧ ∀ c ∈ s.getLast?, isBlank c = false

theorem dropTail_eq_rdropWhile (p : Char → Bool) (s : Text) : dropTail p s = s.rdropWhile p := rfl

theorem trimStart_eq_self_iff {s : Text} :
    trimStart s = s ↔ ∀ c ∈ s.head?, isBlank c = false := by
  cases s <;> simp [trimStart, List.dropWhile_eq_self_iff]

theorem trimEnd_eq_self_iff {s : Text} : trimEnd s = s ↔ ∀ c ∈ s.getLast?, isBlank c = false := by
  unfold trimEnd
  rw [dropTail_eq_rdropWhile, List.rdropWhile_eq_self_iff]
  constructor
  · intro h c hc
    obtain ⟨init, rfl⟩ := List.getLast?_eq_some_iff.mp hc
    simpa using h (by simp)
  · intro h hne
    simpa using h _ (List.getLast?_eq_some_getLast hne)

theorem trim_eq_self_iff {s : Text} : trim s = s ↔ Trimmed s := by
  constructor
  · intro h
    have hsuffix : trimStart s <:+ s := List.dropWhile_suffix _
    have hlen : (trim s).length ≤ (trimStart s).length := length_dropTail_le _ _
    rw [h] at hlen
    have hstart : trimStart s = s := hsuffix.eq_of_length_le hlen
    have hend : trimEnd s = s := by rwa [trim, hstart] at h
    exact ⟨trimStart_eq_self_iff.mp hstart, trimEnd_eq_self_iff.mp hend⟩
  · rintro ⟨hstart, hend⟩
    rw [trim, trimStart_eq_self_iff.mpr hstart, trimEnd_eq_self_iff.mpr hend]

theorem trimStart_of_trim {s : Text} (h : trim s = s) : trimStart s = s :=
  trimStart_eq_self_iff.mpr (trim_eq_self_iff.mp h).1

theorem Trimmed.append {s t : Text} (hs : Trimmed s) (hs' : s ≠ []) (ht : Trimmed t)
    (ht' : t ≠ []) (m : Text) : Trimmed (s ++ m ++ t) := by
  constructor
  · rw [List.append_assoc, List.head?_append_of_ne_nil _ hs']
    exact hs.1
  · rw [List.getLast?_append_of_ne_nil _ ht']
    exact ht.2

theorem trim_append_blank {c : Char} (hc : isBlank c = true) (s : Text) :
    trim (s ++ [c]) = trim s := by
  unfold trim trimStart
  rw [List.dropWhile_append]
  split
  · next h => simp [List.isEmpty_iff.mp h, hc]
  · unfold trimEnd
    rw [dropTail_eq_rdropWhile, List.rdropWhile_concat_pos _ _ _ hc]
    rfl

theorem trimStart_blank_cons {c : Char} (hc : isBlank c = true) (s : Text) :
    trimStart (c :: s) = trimStart s := by
  simp [trimStart, hc]

theorem trimStart_append_of_isBlank {b : Text} (hb : ∀ c ∈ b, isBlank c = true) (s : Text) :
    trimStart (b ++ s) = trimStart s := by
  rw [trimStart, List.dropWhile_append_of_pos hb, trimStart]

theorem trim_append_of_isBlank {b : Text} (hb : ∀ c ∈ b, isBlank c = true) (s : Text) :
    trim (b ++ s) = trim s := by
  rw [trim, trimStart_append_of_isBlank hb, trim]

/-- A text is a trimmed one between blanks. -/
theorem exists_eq_append_trim (s : Text) :
    ∃ l r, s = l ++ trim s ++ r ∧ (∀ c ∈ l, isBlank c = true) ∧ ∀ c ∈ r, isBlank c = true := by
  have hend : trim s ++ (trimStart s).rtakeWhile isBlank = trimStart s :=
    List.rdropWhile_append_rtakeWhile
  refine ⟨s.takeWhile isBlank, (trimStart s).rtakeWhile isBlank, ?_, ?_, ?_⟩
  · rw [List.append_assoc, hend]
    exact List.takeWhile_append_dropWhile.symm
  · exact fun c hc => List.mem_takeWhile_imp hc
  · exact fun c hc => List.mem_rtakeWhile_imp hc

theorem mem_of_mem_trim {c : Char} {s : Text} (h : c ∈ trim s) : c ∈ s := by
  obtain ⟨l, r, hs, -, -⟩ := exists_eq_append_trim s
  rw [hs]
  simp [h]

theorem trim_blank_cons {c : Char} (hc : isBlank c = true) (s : Text) :
    trim (c :: s) = trim s := by
  rw [trim, trimStart_blank_cons hc, trim]

/-- What follows a text that is not blank does not matter for the blanks in front of it. -/
theorem trimStart_append {s : Text} (h : trimStart s ≠ []) (t : Text) :
    trimStart (s ++ t) = trimStart s ++ t := by
  unfold trimStart at h ⊢
  rw [List.dropWhile_append, if_neg (by simpa using h)]

theorem trimStart_trimStart (s : Text) : trimStart (trimStart s) = trimStart s := by
  rw [trimStart_eq_self_iff]
  intro c hc
  have h := List.head?_dropWhile_not isBlank s
  rw [trimStart] at hc
  rw [Option.mem_def.mp hc] at h
  simpa using h

theorem trimStart_ne_nil {s : Text} (hne : s ≠ []) (h : ∀ c ∈ s.getLast?, isBlank c = false) :
    trimStart s ≠ [] := by
  intro hnil
  have hall := List.dropWhile_eq_nil_iff.mp hnil
  have hlast := h _ (List.getLast?_eq_some_getLast hne)
  rw [hall _ (List.getLast_mem hne)] at hlast
  contradiction

theorem trim_trim (s : Text) : trim (trim s) = trim s := by
  have hend : trimEnd (trim s) = trim s := List.rdropWhile_idempotent isBlank (trimStart s)
  obtain ⟨t, ht⟩ : trim s <+: trimStart s := List.rdropWhile_prefix isBlank _
  rw [trim_eq_self_iff]
  refine ⟨?_, trimEnd_eq_self_iff.mp hend⟩
  intro c hc
  have hstart := trimStart_eq_self_iff.mp (trimStart_trimStart s)
  have hne : trim s ≠ [] := by
    intro hnil
    simp [hnil] at hc
  rw [← ht, List.head?_append_of_ne_nil _ hne] at hstart
  exact hstart c hc

/-- It does not matter at which end a text is shortened first. -/
theorem dropTail_dropWhile (p : Char → Bool) (s : Text) :
    dropTail p (s.dropWhile p) = (dropTail p s).dropWhile p := by
  induction s with
  | nil => rfl
  | cons c s ih =>
    have hcons : dropTail p (c :: s) =
        if dropTail p s = [] then (if p c = true then [] else [c]) else c :: dropTail p s := by
      unfold dropTail
      rw [List.reverse_cons, List.dropWhile_append]
      by_cases hs : s.reverse.dropWhile p = []
      · by_cases hc : p c = true <;> simp [hs, hc]
      · simp [hs]
    by_cases hc : p c = true
    · by_cases hs : dropTail p s = [] <;> simp [hc, hcons, hs, ih]
    · by_cases hs : dropTail p s = [] <;> simp [hc, hcons, hs]

theorem trim_trimEnd (s : Text) : trim (trimEnd s) = trim s := by
  have hswap : trimStart (trimEnd s) = trim s := (dropTail_dropWhile isBlank s).symm
  rw [trim, hswap]
  exact List.rdropWhile_idempotent isBlank (trimStart s)

theorem trimStart_append_cons {c : Char} (hc : isBlank c = false) (s t : Text) :
    trimStart (s ++ c :: t) = trimStart s ++ c :: t := by
  unfold trimStart
  rw [List.dropWhile_append]
  by_cases h : (s.dropWhile isBlank).isEmpty = true
  · simp [hc, List.isEmpty_iff.mp h]
  · simp [h]

theorem trim_append_cons {c : Char} (hc : isBlank c = false) (s t : Text) :
    trim (s ++ c :: t) = trimStart s ++ c :: trimEnd t := by
  rw [trim, trimStart_append_cons hc]
  have h := trimStart_append_cons hc t.reverse (trimStart s).reverse
  unfold trimStart at h
  unfold trimEnd dropTail trimStart
  simp [h]

end NoteVault.Text
