import NoteVault.Proofs.Text.Letter
import NoteVault.Proofs.Text.Trim

/-! The quote that is open at a place of a text, and texts between two quotes. -/

namespace NoteVault.Text

/-- The quote that is open behind a character, if `quote` is the one open in front of it. -/
def quoteStep (quote : Option Char) (c : Char) : Option Char :=
  match quote with
  | some q => if c = q then none else some q
  | none => if isQuote c then some c else none

/-- The quote that is open at the end of a text. -/
def openQuote (s : Text) : Option Char := s.foldl quoteStep none

theorem openQuote_append {s : Text} (h : openQuote s = none) (t : Text) :
    openQuote (s ++ t) = openQuote t := by
  simp only [openQuote, List.foldl_append] at h ⊢
  rw [h]

theorem openQuote_eq_none {s : Text} (h : ∀ c ∈ s, isQuote c = false) : openQuote s = none := by
  induction s with
  | nil => rfl
  | cons c s ih =>
    have hc := h c List.mem_cons_self
    have hs := ih fun d hd => h d (List.mem_cons_of_mem _ hd)
    simpa [openQuote, quoteStep, hc] using hs

/-- A text between two quotes. -/
def quoted (q : Char) (t : Text) : Text := q :: (t ++ [q])

section Quoted

variable {q c : Char} {s t : Text}

theorem isBlank_eq_false_of_isQuote (hq : isQuote q = true) : isBlank q = false := by
  rw [Bool.eq_false_iff]
  intro hblank
  rw [isQuote_eq_false_of_isBlank hblank] at hq
  contradiction

theorem not_mem_of_isQuote (hq : isQuote q = true) (ht : ∀ c ∈ t, isQuote c = false) : q ∉ t := by
  intro hmem
  rw [ht q hmem] at hq
  contradiction

theorem getLast?_quoted (q : Char) (t : Text) : (quoted q t).getLast? = some q := by
  rw [quoted, ← List.cons_append, List.getLast?_concat]

theorem trimmed_quoted (hq : isQuote q = true) (t : Text) : Trimmed (quoted q t) := by
  have hblank := isBlank_eq_false_of_isQuote hq
  constructor
  · simpa [quoted] using hblank
  · rw [getLast?_quoted]
    simpa using hblank

theorem foldl_quoteStep_of_not_mem (hs : q ∉ s) : s.foldl quoteStep (some q) = some q := by
  induction s with
  | nil => rfl
  | cons c s ih =>
    simp only [List.mem_cons, not_or] at hs
    have hstep : quoteStep (some q) c = some q := if_neg (Ne.symm hs.1)
    rw [List.foldl_cons, hstep, ih hs.2]

theorem openQuote_quoted (hq : isQuote q = true) (ht : q ∉ t) : openQuote (quoted q t) = none := by
  have hopen : quoteStep none q = some q := if_pos hq
  have hclose : quoteStep (some q) q = none := if_pos rfl
  rw [openQuote, quoted, List.foldl_cons, hopen, List.foldl_append,
    foldl_quoteStep_of_not_mem ht, List.foldl_cons, hclose, List.foldl_nil]

/-- Between its first and its last character a quoted text is inside of the quotes. -/
theorem openQuote_ne_none_of_quoted (hq : isQuote q = true) (ht : q ∉ t) {l r : Text}
    (h : quoted q t = l ++ c :: r) (hl : l ≠ []) : openQuote l ≠ none := by
  cases l with
  | nil => contradiction
  | cons d l =>
    obtain ⟨rfl, htail⟩ := List.cons.inj h
    have hlead : l <+: t := by
      rcases List.append_eq_append_iff.mp htail with ⟨m, rfl, hm⟩ | ⟨m, hm, -⟩
      · obtain rfl : m = [] := by
          have hlength := congrArg List.length hm
          simp only [List.length_append, List.length_cons, List.length_nil] at hlength
          exact List.length_eq_zero_iff.mp (by omega)
        exact ⟨[], by simp⟩
      · exact ⟨m, hm.symm⟩
    have hopen : quoteStep none q = some q := if_pos hq
    have hinside : openQuote (q :: l) = some q := by
      rw [openQuote, List.foldl_cons, hopen,
        foldl_quoteStep_of_not_mem fun hmem => ht (hlead.subset hmem)]
    rw [hinside]
    exact Option.some_ne_none q

theorem unquoted?_quoted (hq : isQuote q = true) (t : Text) : unquoted? (quoted q t) = some t := by
  simp [unquoted?, quoted, hq]

theorem unquoted?_cons_eq_none (hc : isQuote c = false) (s : Text) : unquoted? (c :: s) = none := by
  simp only [unquoted?, hc, Bool.false_and, Bool.false_eq_true, if_false]
  cases s.getLast? <;> rfl

theorem unquoted?_eq_none (hs : ∀ c ∈ s, isQuote c = false) : unquoted? s = none := by
  cases s with
  | nil => rfl
  | cons c s => exact unquoted?_cons_eq_none (hs c List.mem_cons_self) s

theorem stripQuotes_quoted (hq : isQuote q = true) (t : Text) : stripQuotes (quoted q t) = t := by
  rw [stripQuotes, trim_eq_self_iff.mpr (trimmed_quoted hq t), unquoted?_quoted hq]
  rfl

theorem stripQuotes_eq_trim (hs : ∀ c ∈ s, isQuote c = false) : stripQuotes s = trim s := by
  have hnone : unquoted? (trim s) = none := unquoted?_eq_none fun c hc => hs c (mem_of_mem_trim hc)
  rw [stripQuotes, hnone]
  rfl

end Quoted

end NoteVault.Text
