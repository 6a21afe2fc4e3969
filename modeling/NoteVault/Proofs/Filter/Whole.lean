import NoteVault.Proofs.Filter.Reading
import NoteVault.Proofs.Formula.Reference

/-! Statements that stay whole: neither a connective nor a negation takes them apart, so that they
reach the readers of predicates as they are. -/

namespace NoteVault

namespace Connective

variable {k : Connective} {s t rest : Text}

theorem plain_of_mem (hk : k ∈ [disjunction, conjunction]) : k.Plain := by
  simp only [List.mem_cons, List.not_mem_nil, or_false] at hk
  rcases hk with rfl | rfl
  · exact plain_disjunction
  · exact plain_conjunction

theorem afterSpacedWord?_of_not_isAlpha (hk : k.Plain)
    (h : ∀ c ∈ (Text.trimStart s).head?, c.isAlpha = false) :
    afterSpacedWord? k.word s = none := by
  rw [Option.eq_none_iff_forall_not_mem]
  intro q hq
  obtain ⟨w, c, r, hs, hw, -⟩ := exists_of_afterSpacedWord? hq
  obtain ⟨a, w', rfl⟩ := List.exists_cons_of_ne_nil (hk.ne_nil (.inr hw))
  have ha : a.isAlpha = true := Text.isAlpha_of_alike hw hk.word a List.mem_cons_self
  have hnone := h a (by simp [hs])
  rw [ha] at hnone
  contradiction

theorem afterSpacedWord?_of_not_isBlank {word : Text} (h : ∀ c ∈ s, Text.isBlank c = false) :
    afterSpacedWord? word s = none := by
  rw [Option.eq_none_iff_forall_not_mem]
  intro q hq
  obtain ⟨w, c, r, hs, -, hc⟩ := exists_of_afterSpacedWord? hq
  have hmem : c ∈ Text.trimStart s := by simp [hs]
  have hblank := h c ((List.dropWhile_suffix _).subset hmem)
  rw [hc] at hblank
  contradiction

/-- A character at which no connective begins. -/
def isInert (c : Char) : Bool := !Text.isBlank c && !Text.isQuote c && c != '|' && c != '&'

theorem isInert_of_isPathChar {c : Char} (h : Reference.isPathChar c = true) :
    isInert c = true := by
  have hmark : c ≠ '|' ∧ c ≠ '&' := by
    constructor
    · rintro rfl
      exact absurd h (by decide)
    · rintro rfl
      exact absurd h (by decide)
  simp [isInert, Reference.isBlank_eq_false_of_isPathChar h,
    Reference.isQuote_eq_false_of_isPathChar h, hmark]

theorem after?_of_isInert (hk : k ∈ [disjunction, conjunction]) {c : Char}
    (hc : isInert c = true) (s : Text) : k.after? (c :: s) = none := by
  simp only [isInert, Bool.and_eq_true, Bool.not_eq_true', bne_iff_ne] at hc
  obtain ⟨⟨⟨hblank, -⟩, hbar⟩, hand⟩ := hc
  refine after?_eq_none ?_ fun h => ?_
  · simp only [List.mem_cons, List.not_mem_nil, or_false] at hk
    rcases hk with rfl | rfl
    · exact if_neg (Ne.symm hbar)
    · exact if_neg (Ne.symm hand)
  · rw [hblank] at h
    contradiction

/-- Neither connective begins in a text outside of its quotes, if `rest` follows the text, and the
quotes are closed. -/
structure Unsplit (s rest : Text) : Prop where
  closed : Text.openQuote s = none
  clear : ∀ k ∈ [disjunction, conjunction], k.Clear s rest

theorem Unsplit.append (hs : Unsplit s (t ++ rest)) (ht : Unsplit t rest) :
    Unsplit (s ++ t) rest where
  closed := by rw [Text.openQuote_append hs.closed, ht.closed]
  clear k hk := (hs.clear k hk).append hs.closed (ht.clear k hk)

theorem unsplit_of_isInert (h : ∀ c ∈ s, isInert c = true) (rest : Text) : Unsplit s rest where
  closed := by
    refine Text.openQuote_eq_none fun c hc => ?_
    have hinert := h c hc
    simp only [isInert, Bool.and_eq_true, Bool.not_eq_true'] at hinert
    exact hinert.1.1.2
  clear k hk := by
    rintro l c r rfl -
    exact after?_of_isInert hk (h c (by simp)) _

theorem unsplit_of_isBlank (h : ∀ c ∈ s, Text.isBlank c = true)
    (hrest : ∀ k ∈ [disjunction, conjunction], afterSpacedWord? k.word rest = none) :
    Unsplit s rest where
  closed := Text.openQuote_eq_none fun c hc => Text.isQuote_eq_false_of_isBlank (h c hc)
  clear k hk := by
    rintro l c r rfl -
    -- Behind any of the blanks a connective would have its word behind all of them.
    have hblank : ∀ e ∈ r, Text.isBlank e = true := fun e he => h e (by simp [he])
    refine after?_eq_none ((plain_of_mem hk).after?_symbol_blank (h c (by simp)) _) fun _ => ?_
    change afterSpacedWord? k.word (r ++ rest) = none
    rw [← afterSpacedWord?_trimStart, Text.trimStart_append_of_isBlank hblank,
      afterSpacedWord?_trimStart]
    exact hrest k hk

theorem unsplit_quoted {q : Char} (hq : Text.isQuote q = true) (ht : q ∉ t) (rest : Text) :
    Unsplit (Text.quoted q t) rest where
  closed := Text.openQuote_quoted hq ht
  clear k hk := by
    intro l c r h hl
    -- All places but the one in front of the first quote are inside of the quotes.
    cases l with
    | cons d l => exact absurd hl (Text.openQuote_ne_none_of_quoted hq ht h (List.cons_ne_nil d l))
    | nil =>
      obtain rfl : q = c := (List.cons.inj h).1
      refine after?_eq_none ?_ fun hblank => ?_
      · have hne : ∀ a ∈ k.symbol, a ≠ q := by
          rintro a ha rfl
          have hplain := ((plain_of_mem hk).symbol a ha).2.1
          rw [hq] at hplain
          contradiction
        obtain ⟨a, symbol, ha⟩ := List.exists_cons_of_ne_nil k.symbol_ne_nil
        rw [ha]
        exact if_neg (hne a (by simp [ha]))
      · rw [Text.isBlank_eq_false_of_isQuote hq] at hblank
        contradiction

theorem Unsplit.pieces (h : Unsplit s rest) (hk : k ∈ [disjunction, conjunction]) :
    pieces k none (s ++ rest) = s.foldr Text.consHead (pieces k none rest) :=
  (h.clear k hk).pieces h.closed

theorem isWhole_of_unsplit (hne : s ≠ []) (hs : Text.Trimmed s) (h : Unsplit s []) :
    IsWhole s := by
  have hsplit : ∀ k ∈ [disjunction, conjunction], (k.split s).length = 1 := by
    intro k hk
    have hnil : k.pieces none [] = [[]] := by rw [Connective.pieces]
    have hpieces := h.pieces hk
    rw [List.append_nil, hnil, Text.foldr_consHead, List.append_nil] at hpieces
    rw [split, hpieces]
    rfl
  exact ⟨hne, Text.trim_eq_self_iff.mpr hs, hsplit _ (by simp), hsplit _ (by simp)⟩

end Connective

namespace Condition

theorem ofText_trim (s : Text) : ofText (Text.trim s) = ofText s := by
  rw [ofText, ofText.eq_1 s, Text.trim_trim]

/-- A name with something else than a letter behind it is no negation, unless it is the word for one
in front of a blank. -/
theorem negated?_of_isPathChar {name rest : Text} (hname : name ≠ [])
    (hpath : ∀ c ∈ name, Reference.isPathChar c = true)
    (hrest : ∀ c ∈ rest.head?, c.isAlpha = false)
    (hnot : Text.alike name "not" = true → ∀ c ∈ rest.head?, Text.isBlank c = false) :
    negated? (name ++ rest) = none := by
  have hword : ∀ c r, Connective.afterWord? "not" (name ++ rest) = some (c :: r) →
      Text.isBlank c = false := by
    intro c r h
    obtain ⟨w, hs, hw⟩ := Connective.afterWord?_eq_some_iff.mp h
    -- The word reaches beyond the name, or the name goes on behind the word.
    rcases List.append_eq_append_iff.mp hs with ⟨m, rfl, hm⟩ | ⟨m, rfl, hm⟩
    · cases m with
      | nil =>
        rw [List.append_nil] at hw
        exact hnot hw c (by simpa using congrArg List.head? hm)
      | cons d m =>
        have hd : d.isAlpha = true := Text.isAlpha_of_alike hw (List.all_eq_true.mp rfl) d (by simp)
        have hnone := hrest d (by simp [hm])
        rw [hd] at hnone
        contradiction
    · cases m with
      | nil =>
        rw [List.append_nil] at hnot
        exact hnot hw c (by simpa using congrArg List.head? hm.symm)
      | cons d m =>
        obtain rfl : c = d := (List.cons.inj hm).1
        exact Reference.isBlank_eq_false_of_isPathChar (hpath c (by simp))
  obtain ⟨a, name, rfl⟩ := List.exists_cons_of_ne_nil hname
  have ha : a ≠ '!' := by
    rintro rfl
    exact absurd (hpath '!' List.mem_cons_self) (by decide)
  unfold negated?
  split
  · next r hr => exact absurd (List.cons.inj hr).1 ha
  · split
    · next c r hafter => rw [if_neg (by simp [hword c r hafter])]
    · rfl

end Condition

end NoteVault
