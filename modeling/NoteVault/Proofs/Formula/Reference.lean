import NoteVault.Formula.Reference
import NoteVault.Proofs.Text.Trim
import NoteVault.Text.Quoted

/-! References are texts of letters, numerals and a few marks, so that no blank, quote, bracket or sign
of a comparison stands in one. -/

namespace NoteVault

namespace Text

/-- The code points of the blanks. -/
def blankPoints : List Nat :=
  [0x09, 0x0A, 0x0B, 0x0C, 0x0D, 0x20, 0x85, 0xA0, 0x1680, 0x2000, 0x2001, 0x2002, 0x2003, 0x2004,
   0x2005, 0x2006, 0x2007, 0x2008, 0x2009, 0x200A, 0x2028, 0x2029, 0x202F, 0x205F, 0x3000]

theorem mem_blankPoints {c : Char} (h : isBlank c = true) : c.toNat ∈ blankPoints := by
  simp only [isBlank, Bool.or_eq_true, Bool.and_eq_true, decide_eq_true_eq, beq_iff_eq] at h
  simp only [blankPoints, List.mem_cons, List.not_mem_nil, or_false]
  omega

theorem isNameChar_ofNat_of_mem_blankPoints :
    ∀ n ∈ blankPoints, isNameChar (Char.ofNat n) = false := by
  decide +kernel

theorem isBlank_eq_false_of_isNameChar {c : Char} (h : isNameChar c = true) :
    isBlank c = false := by
  rw [Bool.eq_false_iff]
  intro hblank
  have hname := isNameChar_ofNat_of_mem_blankPoints c.toNat (mem_blankPoints hblank)
  rw [Char.ofNat_toNat, h] at hname
  contradiction

end Text

namespace Reference

variable {t : Text} {c : Char}

theorem isBlank_eq_false_of_isPathChar (h : isPathChar c = true) : Text.isBlank c = false := by
  simp only [isPathChar, Bool.or_eq_true, beq_iff_eq] at h
  rcases h with h | rfl
  · exact Text.isBlank_eq_false_of_isNameChar h
  · decide

theorem isQuote_eq_false_of_isPathChar (h : isPathChar c = true) : Text.isQuote c = false := by
  rw [Bool.eq_false_iff]
  intro hquote
  have hc : c = '"' ∨ c = '\'' := by simpa [Text.isQuote] using hquote
  rcases hc with rfl | rfl <;> exact absurd h (by decide)

theorem isPathChar_of_isNameChar (h : Text.isNameChar c = true) : isPathChar c = true := by
  simp [isPathChar, h]

theorem isScoped_eq_true_iff {scope : Text} : isScoped scope t = true ↔
    ∃ path, t = scope ++ '.' :: path ∧ path ≠ [] ∧ ∀ c ∈ path, isPathChar c = true := by
  unfold isScoped
  cases hafter : Text.after? (scope ++ ['.']) t with
  | none =>
    simp only [Bool.false_eq_true, false_iff]
    rintro ⟨path, rfl, -, -⟩
    have hscope : scope ++ '.' :: path = (scope ++ ['.']) ++ path := by simp
    rw [hscope, Text.after?_append] at hafter
    contradiction
  | some path =>
    obtain rfl := Text.eq_append_of_after? hafter
    have hscope : (scope ++ ['.']) ++ path = scope ++ '.' :: path := by simp
    simp only [hscope, Bool.and_eq_true, Bool.not_eq_true', List.isEmpty_eq_false_iff,
      List.all_eq_true]
    constructor
    · exact fun h => ⟨path, rfl, h⟩
    · rintro ⟨path', hpath, h⟩
      obtain rfl : path = path' := (List.cons.inj (List.append_cancel_left hpath)).2
      exact h

theorem isPathChar_of_isScoped {scope : Text} (hscope : ∀ c ∈ scope, isPathChar c = true)
    (h : isScoped scope t = true) : ∀ c ∈ t, isPathChar c = true := by
  obtain ⟨path, rfl, -, hpath⟩ := isScoped_eq_true_iff.mp h
  intro c hc
  rcases List.mem_append.mp hc with hc | hc
  · exact hscope c hc
  · rcases List.mem_cons.mp hc with rfl | hc
    · decide
    · exact hpath c hc

theorem isPathChar_of_isToken (h : isToken t = true) : ∀ c ∈ t, isPathChar c = true := by
  simp only [isToken, Bool.or_eq_true, Bool.and_eq_true, List.all_eq_true] at h
  rcases h with ((h | h) | h) | h
  · exact fun c hc => isPathChar_of_isNameChar (h.2 c hc)
  · exact isPathChar_of_isScoped (List.all_eq_true.mp rfl) h
  · exact isPathChar_of_isScoped (List.all_eq_true.mp rfl) h
  · exact isPathChar_of_isScoped (List.all_eq_true.mp rfl) h

theorem not_mem_of_isPathChar (ht : ∀ d ∈ t, isPathChar d = true) (hc : isPathChar c = false) :
    c ∉ t := by
  intro hmem
  rw [ht c hmem] at hc
  contradiction

theorem ne_nil_of_isToken (h : isToken t = true) : t ≠ [] := by
  rintro rfl
  exact absurd h (by decide)

theorem trimmed_of_isToken (h : isToken t = true) : Text.Trimmed t := by
  have hpath := isPathChar_of_isToken h
  constructor
  · exact fun c hc => isBlank_eq_false_of_isPathChar (hpath c (List.mem_of_mem_head? hc))
  · exact fun c hc => isBlank_eq_false_of_isPathChar (hpath c (List.mem_of_mem_getLast? hc))

theorem isToken_eq_false_of_mem (hc : c ∈ t) (h : isPathChar c = false) : isToken t = false := by
  rw [Bool.eq_false_iff]
  exact fun ht => not_mem_of_isPathChar (isPathChar_of_isToken ht) h hc

/-- A reference to a property: a bare name, or a path in the scope of the note. -/
def IsProperty (k : Text) : Prop :=
  (k ≠ [] ∧ ∀ c ∈ k, Text.isNameChar c = true) ∨ isScoped "note" k = true

instance (k : Text) : Decidable (IsProperty k) :=
  decidable_of_iff ((k ≠ [] ∧ k.all Text.isNameChar = true) ∨ isScoped "note" k = true)
    (by simp [IsProperty])

theorem IsProperty.isToken (h : IsProperty t) : isToken t = true := by
  rcases h with ⟨hne, hname⟩ | hscope
  · have hall : t.all Text.isNameChar = true := List.all_eq_true.mpr hname
    simp [Reference.isToken, hne, hall]
  · simp only [Reference.isToken, hscope, Bool.or_true, Bool.true_or]

theorem IsProperty.isScoped_file (h : IsProperty t) : isScoped "file" t = false := by
  rw [Bool.eq_false_iff]
  intro hfile
  obtain ⟨path, hpath, -, -⟩ := isScoped_eq_true_iff.mp hfile
  rcases h with ⟨-, hname⟩ | hnote
  · have hpoint := hname '.' (by simp [hpath])
    exact absurd hpoint (by decide)
  · obtain ⟨path', hpath', -, -⟩ := isScoped_eq_true_iff.mp hnote
    rw [hpath] at hpath'
    exact absurd (List.cons.inj hpath').1 (by decide)

/-- A reference to the data of a note: a property, or a field of its file. -/
def IsData (r : Text) : Prop := IsProperty r ∨ isScoped "file" r = true

instance (r : Text) : Decidable (IsData r) := inferInstanceAs (Decidable (_ ∨ _))

theorem IsData.isToken (h : IsData t) : isToken t = true := by
  rcases h with hproperty | hfile
  · exact hproperty.isToken
  · simp only [Reference.isToken, hfile, Bool.or_true, Bool.true_or]

/-- The characters of the name of a formula, as a reference to it may hold them. -/
def IsKey (key : Text) : Prop := key ≠ [] ∧ ∀ c ∈ key, isPathChar c = true

instance (key : Text) : Decidable (IsKey key) :=
  decidable_of_iff (key ≠ [] ∧ key.all isPathChar = true) (by simp [IsKey])

/-- The reference to a formula. -/
def toFormula (key : Text) : Text := "formula".toList ++ '.' :: key

theorem isToken_toFormula (h : IsKey t) : isToken (toFormula t) = true := by
  have hscope : isScoped "formula" (toFormula t) = true := isScoped_eq_true_iff.mpr ⟨t, rfl, h⟩
  simp only [isToken, hscope, Bool.or_true]

theorem ofText_toFormula (h : IsKey t) : ofText (toFormula t) = .formula t := by
  have htrim := Text.trim_eq_self_iff.mpr (trimmed_of_isToken (isToken_toFormula h))
  have hfile : Text.after? "file." (toFormula t) = none := rfl
  have hnote : Text.after? "note." (toFormula t) = none := rfl
  have hformula : Text.after? "formula." (toFormula t) = some t := Text.after?_append "formula." t
  simp only [ofText, htrim, hfile, hnote, hformula]

theorem trim_of_ofText_formula {key : Text} (h : ofText t = .formula key) :
    Text.trim t = toFormula key := by
  simp only [ofText] at h
  split at h
  · contradiction
  · contradiction
  · next hformula =>
    obtain rfl := Reference.formula.inj h
    rw [Text.eq_append_of_after? hformula]
    rfl
  · contradiction

theorem IsData.ofText_ne (h : IsData t) (key : Text) : ofText t ≠ .formula key := by
  intro hformula
  have ht := trim_of_ofText_formula hformula
  rw [Text.trim_eq_self_iff.mpr (trimmed_of_isToken h.isToken)] at ht
  rcases h with (⟨-, hname⟩ | hnote) | hfile
  · have hpoint := hname '.' (ht ▸ List.mem_append_right _ List.mem_cons_self)
    exact absurd hpoint (by decide)
  · obtain ⟨path, hpath, -, -⟩ := isScoped_eq_true_iff.mp hnote
    rw [ht] at hpath
    exact absurd (List.cons.inj hpath).1 (by decide)
  · obtain ⟨path, hpath, -, -⟩ := isScoped_eq_true_iff.mp hfile
    rw [ht] at hpath
    have hsecond := (List.cons.inj (List.cons.inj hpath).2).1
    exact absurd hsecond (by decide)

end Reference

end NoteVault
