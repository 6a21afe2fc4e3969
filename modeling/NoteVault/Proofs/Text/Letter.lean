import NoteVault.Text.Quoted

/-! Letters, blanks and quotes are different characters. Texts that are alike have letters in the
same places. -/

namespace NoteVault.Text

theorem isAlpha_iff {c : Char} : c.isAlpha = true ↔
    (65 ≤ c.toNat ∧ c.toNat ≤ 90) ∨ (97 ≤ c.toNat ∧ c.toNat ≤ 122) := by
  have hupper : c.isUpper = true ↔ 65 ≤ c.toNat ∧ c.toNat ≤ 90 := decide_eq_true_iff
  have hlower : c.isLower = true ↔ 97 ≤ c.toNat ∧ c.toNat ≤ 122 := by
    rw [← decide_eq_true_iff (p := 97 ≤ c.toNat), ← decide_eq_true_iff (p := c.toNat ≤ 122)]
    exact Bool.and_eq_true_iff
  rw [← hupper, ← hlower, ← Bool.or_eq_true]
  rfl

theorem isQuote_eq_false_of_isBlank {c : Char} (h : isBlank c = true) : isQuote c = false := by
  rw [Bool.eq_false_iff]
  intro hq
  have hc : c = '"' ∨ c = '\'' := by simpa [isQuote] using hq
  rcases hc with rfl | rfl <;> simp [isBlank] at h

theorem isQuote_eq_false_of_isAlpha {c : Char} (h : c.isAlpha = true) : isQuote c = false := by
  rw [Bool.eq_false_iff]
  intro hq
  have hc : c = '"' ∨ c = '\'' := by simpa [isQuote] using hq
  rw [isAlpha_iff] at h
  rcases hc with rfl | rfl
  · revert h
    decide
  · revert h
    decide

theorem isBlank_eq_false_of_isAlpha {c : Char} (h : c.isAlpha = true) : isBlank c = false := by
  rw [isAlpha_iff] at h
  rw [Bool.eq_false_iff]
  intro hb
  simp only [isBlank, Bool.or_eq_true, Bool.and_eq_true, decide_eq_true_eq, beq_iff_eq] at hb
  omega

theorem ne_slash_of_isAlpha {c : Char} (h : c.isAlpha = true) : c ≠ '/' := by
  rintro rfl
  exact absurd h (by decide)

theorem isDigit_eq_false_of_isAlpha {c : Char} (h : c.isAlpha = true) : c.isDigit = false := by
  rw [isAlpha_iff] at h
  rw [Bool.eq_false_iff]
  intro hdigit
  simp only [Char.isDigit, Bool.and_eq_true, decide_eq_true_eq] at hdigit
  have hle : c.toNat ≤ 57 := UInt32.le_iff_toNat_le.mp hdigit.2
  omega

theorem isAlpha_of_isAlpha_toLower {c : Char} (h : c.toLower.isAlpha = true) :
    c.isAlpha = true := by
  unfold Char.toLower at h
  split at h
  · next hupper => exact isAlpha_iff.mpr (.inl hupper)
  · exact h

theorem eq_dot_of_toLower {c : Char} (h : c.toLower = '.') : c = '.' := by
  unfold Char.toLower at h
  split at h
  · next hupper =>
    have hval : c.val + 32 = 46 := congrArg Char.val h
    have hlow : 65 ≤ c.val.toNat := UInt32.le_iff_toNat_le.mp hupper.1
    have hhigh : c.val.toNat ≤ 90 := UInt32.le_iff_toNat_le.mp hupper.2
    have hnat := congrArg UInt32.toNat hval
    rw [UInt32.toNat_add] at hnat
    simp only [UInt32.reduceToNat] at hnat
    omega
  · exact h

theorem alike_iff {s t : Text} : alike s t = true ↔ lower s = lower t := by
  simp [alike]

theorem alike_nil_iff {s : Text} : alike s [] = true ↔ s = [] := by
  simp [alike_iff, lower]

theorem alike_cons_iff {s t : Text} {a : Char} :
    alike s (a :: t) = true ↔ ∃ c r, s = c :: r ∧ a.toLower = c.toLower ∧ alike r t = true := by
  cases s with
  | nil => simp [alike_iff, lower]
  | cons c r =>
    have hcons : alike (c :: r) (a :: t) = true ↔ c.toLower = a.toLower ∧ alike r t = true := by
      simp [alike_iff, lower]
    rw [hcons]
    constructor
    · rintro ⟨hc, hr⟩
      exact ⟨c, r, rfl, hc.symm, hr⟩
    · rintro ⟨_, _, h, hc, hr⟩
      obtain ⟨rfl, rfl⟩ := List.cons.inj h
      exact ⟨hc.symm, hr⟩

theorem length_eq_of_alike {s t : Text} (h : alike s t = true) : s.length = t.length := by
  simpa [lower] using congrArg List.length (alike_iff.mp h)

/-- A text that is alike a word of letters consists of letters. -/
theorem isAlpha_of_alike {s word : Text} (h : alike s word = true)
    (hword : ∀ c ∈ word, c.toLower.isAlpha = true) : ∀ c ∈ s, c.isAlpha = true := by
  intro c hc
  have hmem : c.toLower ∈ lower word := alike_iff.mp h ▸ List.mem_map_of_mem hc
  obtain ⟨a, ha, hac⟩ := List.mem_map.mp hmem
  exact isAlpha_of_isAlpha_toLower (hac ▸ hword a ha)

end NoteVault.Text
