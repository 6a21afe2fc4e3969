import NoteVault.Filter.Connective
import NoteVault.Proofs.Text.Letter
import NoteVault.Proofs.Text.OpenQuote
import NoteVault.Proofs.Text.Trim

/-! Splitting at a connective undoes joining with it, provided that it stands nowhere outside the
quotes of the joined texts. -/

namespace NoteVault.Connective

/-- Whether a word begins at a place of a text, in any case of its letters, with blanks or the ends
of the text on both sides. -/
def wordAt (word s : Text) (i : Nat) : Bool :=
  Text.alike ((s.drop i).take word.length) word && (s.take i).getLast?.all Text.isBlank &&
    (s.drop (i + word.length)).head?.all Text.isBlank

/-- A connective stands nowhere in a text outside of its quotes, be it the symbol or the word. -/
def Absent (k : Connective) (s : Text) : Prop :=
  ∀ i < s.length, Text.openQuote (s.take i) = none →
    Text.beginsWith k.symbol (s.drop i) = false ∧ wordAt k.word s i = false

instance (k : Connective) (s : Text) : Decidable (k.Absent s) := by
  unfold Absent
  infer_instance

/-- A connective as it stands between two texts: its symbol, or its word in any case, with a space
on both sides. -/
def Written (k : Connective) (sep : Text) : Prop :=
  ∃ w, sep = ' ' :: (w ++ [' ']) ∧ (w = k.symbol ∨ Text.alike w k.word = true)

/-- A text consists of some texts with a connective between neighbours; each one may be written
in another way. -/
inductive Joined (k : Connective) : List Text → Text → Prop
  | single (t : Text) : Joined k [t] t
  | cons {t sep s : Text} {ts : List Text} (hsep : k.Written sep) (hs : Joined k ts s) :
      Joined k (t :: ts) (t ++ sep ++ s)

/-- The symbol of a connective consists neither of blanks nor of quotes nor of letters, and its word
consists of letters. -/
structure Plain (k : Connective) : Prop where
  symbol : ∀ c ∈ k.symbol, Text.isBlank c = false ∧ Text.isQuote c = false ∧ c.isAlpha = false
  word : ∀ c ∈ k.word, c.toLower.isAlpha = true
  word_ne_nil : k.word ≠ []

theorem plain_disjunction : disjunction.Plain where
  symbol := by
    intro c hc
    obtain rfl : c = '|' := by simpa [disjunction] using hc
    decide
  word := by
    intro c hc
    have hletter : c = 'o' ∨ c = 'r' := by simpa [disjunction] using hc
    rcases hletter with rfl | rfl
    · decide
    · decide
  word_ne_nil := by decide

theorem plain_conjunction : conjunction.Plain where
  symbol := by
    intro c hc
    obtain rfl : c = '&' := by simpa [conjunction] using hc
    decide
  word := by
    intro c hc
    have hletter : c = 'a' ∨ c = 'n' ∨ c = 'd' := by simpa [conjunction] using hc
    rcases hletter with rfl | rfl | rfl
    · decide
    · decide
    · decide
  word_ne_nil := by decide

theorem Plain.written {k : Connective} (hk : k.Plain) {w : Text}
    (hw : w = k.symbol ∨ Text.alike w k.word = true) :
    ∀ c ∈ w, Text.isBlank c = false ∧ Text.isQuote c = false := by
  rcases hw with rfl | hw
  · exact fun c hc => ⟨(hk.symbol c hc).1, (hk.symbol c hc).2.1⟩
  · intro c hc
    have ha := Text.isAlpha_of_alike hw hk.word c hc
    exact ⟨Text.isBlank_eq_false_of_isAlpha ha, Text.isQuote_eq_false_of_isAlpha ha⟩

theorem Plain.ne_nil {k : Connective} (hk : k.Plain) {w : Text}
    (hw : w = k.symbol ∨ Text.alike w k.word = true) : w ≠ [] := by
  rcases hw with rfl | hw
  · exact k.symbol_ne_nil
  · rintro rfl
    exact hk.word_ne_nil (List.length_eq_zero_iff.mp (Text.length_eq_of_alike hw).symm)

/-! ### What stands at the beginning of a text -/

theorem afterWord?_eq_some_iff {word s r : Text} :
    afterWord? word s = some r ↔ ∃ w, s = w ++ r ∧ Text.alike w word = true := by
  induction word generalizing s with
  | nil =>
    simp only [afterWord?, Option.some.injEq, Text.alike_nil_iff]
    constructor
    · intro h
      exact ⟨[], h, rfl⟩
    · rintro ⟨w, h, hw⟩
      rw [h, hw, List.nil_append]
  | cons a word ih =>
    cases s with
    | nil =>
      simp only [afterWord?, reduceCtorEq, false_iff]
      rintro ⟨w, hnil, hw⟩
      obtain ⟨rfl, rfl⟩ := List.append_eq_nil_iff.mp hnil.symm
      have := Text.length_eq_of_alike hw
      simp at this
    | cons c s =>
      unfold afterWord?
      split
      · next hc =>
        rw [ih]
        constructor
        · rintro ⟨w, rfl, hw⟩
          exact ⟨c :: w, rfl, Text.alike_cons_iff.mpr ⟨c, w, rfl, hc, hw⟩⟩
        · rintro ⟨w', hs, hw'⟩
          obtain ⟨d, w, rfl, -, hw⟩ := Text.alike_cons_iff.mp hw'
          exact ⟨w, (List.cons.inj hs).2, hw⟩
      · next hc =>
        simp only [reduceCtorEq, false_iff]
        rintro ⟨w', hs, hw'⟩
        obtain ⟨d, w, rfl, hd, -⟩ := Text.alike_cons_iff.mp hw'
        exact hc ((List.cons.inj hs).1 ▸ hd)

theorem exists_of_afterSpacedWord? {word s r : Text} (h : afterSpacedWord? word s = some r) :
    ∃ w c q, Text.trimStart s = w ++ c :: q ∧ Text.alike w word = true ∧
      Text.isBlank c = true := by
  unfold afterSpacedWord? at h
  split at h
  · next c q hq =>
    obtain ⟨w, hs, hw⟩ := afterWord?_eq_some_iff.mp hq
    split at h
    · next hcq =>
      simp only [Bool.and_eq_true] at hcq
      exact ⟨w, c, q, hs, hw, hcq.1⟩
    · simp at h
  · simp at h

theorem afterSpacedWord?_trimStart (word s : Text) :
    afterSpacedWord? word (Text.trimStart s) = afterSpacedWord? word s := by
  simp [afterSpacedWord?, Text.trimStart_trimStart]

theorem after?_eq_none {k : Connective} {c : Char} {s : Text}
    (hsymbol : Text.after? k.symbol (c :: s) = none)
    (hword : Text.isBlank c = true → afterSpacedWord? k.word s = none) :
    k.after? (c :: s) = none := by
  rw [after?, hsymbol]
  change (if Text.isBlank c = true then afterSpacedWord? k.word (c :: s) else none) = none
  split
  · next hc =>
    rw [← afterSpacedWord?_trimStart, Text.trimStart_blank_cons hc, afterSpacedWord?_trimStart]
    exact hword hc
  · rfl

theorem Plain.after?_symbol_blank {k : Connective} (hk : k.Plain) {c : Char}
    (hc : Text.isBlank c = true) (s : Text) : Text.after? k.symbol (c :: s) = none := by
  rw [Option.eq_none_iff_forall_not_mem]
  intro q hq
  have hs := Text.after?_eq_some_iff.mp hq
  obtain ⟨a, symbol, hsymbol⟩ := List.exists_cons_of_ne_nil k.symbol_ne_nil
  have ha : c = a := by
    rw [hsymbol] at hs
    exact (List.cons.inj hs).1
  have := (hk.symbol a (by simp [hsymbol])).1
  rw [← ha, hc] at this
  contradiction

/-! ### Places where a connective does not begin -/

/-- A connective begins nowhere in a text outside of its quotes, if `rest` follows the text. -/
def Clear (k : Connective) (s rest : Text) : Prop :=
  ∀ l c r, s = l ++ c :: r → Text.openQuote l = none → k.after? (c :: r ++ rest) = none

theorem Clear.append {k : Connective} {s t rest : Text} (hs : k.Clear s (t ++ rest))
    (hclosed : Text.openQuote s = none) (ht : k.Clear t rest) : k.Clear (s ++ t) rest := by
  intro l c r h hl
  rcases List.append_eq_append_iff.mp h with ⟨m, rfl, hm⟩ | ⟨m, rfl, hm⟩
  · rw [Text.openQuote_append hclosed] at hl
    exact ht m c r hm hl
  · cases m with
    | nil => exact ht [] c r (by simpa using hm.symm) rfl
    | cons d m =>
      obtain ⟨rfl, rfl⟩ := List.cons.inj hm
      simpa using hs l c m rfl hl

theorem Clear.of_cons {k : Connective} {c : Char} {s rest : Text} (h : k.Clear (c :: s) rest)
    (hc : Text.isQuote c = false) : k.Clear s rest := by
  intro l d r hs hl
  refine h (c :: l) d r (by rw [hs, List.cons_append]) ?_
  rw [← List.singleton_append, Text.openQuote_append (Text.openQuote_eq_none (by simpa using hc))]
  exact hl

section Absent

variable {k : Connective} {t l r rest : Text}

theorem Absent.after?_symbol_eq_none (hk : k.Plain) (ha : k.Absent t) (ht : t = l ++ r)
    (hr : r ≠ []) (hl : Text.openQuote l = none) (hrest : ∀ c ∈ rest.head?, c = ' ') :
    Text.after? k.symbol (r ++ rest) = none := by
  have hlt : l.length < t.length := by
    have := List.length_pos_iff.mpr hr
    simp [ht, this]
  have hno := (ha l.length hlt (by simpa [ht] using hl)).1
  rw [Option.eq_none_iff_forall_not_mem]
  intro q hq
  rcases List.append_eq_append_iff.mp (Text.after?_eq_some_iff.mp hq) with ⟨m, hm, hq⟩ | ⟨m, rfl, -⟩
  · cases m with
    | nil =>
      have hr' : r = k.symbol ++ [] := by simpa using hm.symm
      simp only [ht, hr', Text.beginsWith, List.drop_left, Text.after?_append] at hno
      contradiction
    | cons d m =>
      have hd : d = ' ' := hrest d (by simp [hq])
      have hblank := (hk.symbol d (by simp [hm])).1
      subst hd
      contradiction
  · simp [ht, Text.beginsWith] at hno

theorem Absent.afterSpacedWord?_eq_none (hk : k.Plain) (ha : k.Absent t) (ht : t = l ++ r)
    (hr : r ≠ []) (hl : Text.openQuote l = none)
    (hblank : ∀ c ∈ l.getLast?, Text.isBlank c = true)
    (hstart : ∀ c ∈ r.head?, Text.isBlank c = false) (hrest : ∀ c ∈ rest.head?, c = ' ') :
    afterSpacedWord? k.word (r ++ rest) = none := by
  have hlt : l.length < t.length := by
    have := List.length_pos_iff.mpr hr
    simp [ht, this]
  have hno := (ha l.length hlt (by simpa [ht] using hl)).2
  have hword : ∀ w m, Text.alike w k.word = true → r = w ++ m →
      (∀ c ∈ m.head?, Text.isBlank c = true) → False := by
    intro w m hw hr hm
    rw [Bool.eq_false_iff] at hno
    apply hno
    simp only [wordAt, ht, hr, ← Text.length_eq_of_alike hw, List.drop_left, List.take_left,
      ← List.drop_drop, hw, Bool.and_eq_true, Option.all_eq_true, true_and]
    exact ⟨hblank, hm⟩
  rw [Option.eq_none_iff_forall_not_mem]
  intro q hq
  obtain ⟨w, c, x, hs, hw, hc⟩ := exists_of_afterSpacedWord? hq
  rw [Text.trimStart_eq_self_iff.mpr (by rwa [List.head?_append_of_ne_nil _ hr])] at hs
  rcases List.append_eq_append_iff.mp hs with ⟨m, hm, hx⟩ | ⟨m, hm, hx⟩
  · cases m with
    | nil => exact hword w [] hw (by simpa using hm.symm) (by simp)
    | cons d m =>
      have hd : d = ' ' := hrest d (by simp [hx])
      have hnb := (hk.written (Or.inr hw) d (by simp [hm])).1
      subst hd
      contradiction
  · refine hword w m hw hm ?_
    cases m with
    | nil => simp
    | cons d m =>
      have hd : c = d := (List.cons.inj hx).1
      simpa [← hd] using hc

theorem Absent.clear (hk : k.Plain) (ha : k.Absent t) (ht : Text.Trimmed t) (hne : t ≠ [])
    (hrest : ∀ c ∈ rest.head?, c = ' ') : k.Clear (' ' :: t) rest := by
  intro l c r h hl
  cases l with
  | nil =>
    obtain ⟨rfl, rfl⟩ := List.cons.inj h
    refine after?_eq_none (hk.after?_symbol_blank (by decide) _) fun _ => ?_
    exact ha.afterSpacedWord?_eq_none hk (List.nil_append t).symm hne rfl (by simp) ht.1 hrest
  | cons d l =>
    obtain ⟨rfl, hsplit⟩ := List.cons.inj h
    change t = l ++ c :: r at hsplit
    have hl' : Text.openQuote l = none := by
      rwa [← List.singleton_append, Text.openQuote_append rfl] at hl
    refine after?_eq_none (ha.after?_symbol_eq_none hk hsplit (by simp) hl' hrest) fun hc => ?_
    -- A word would have to begin behind all blanks at `c`, and `t` does not end in blanks.
    have hlast : ∀ e ∈ (c :: r).getLast?, Text.isBlank e = false := by
      intro e he
      exact ht.2 e (by rwa [hsplit, List.getLast?_append_of_ne_nil _ (by simp)])
    have hrne : Text.trimStart r ≠ [] := by
      rw [← Text.trimStart_blank_cons hc]
      exact Text.trimStart_ne_nil (by simp) hlast
    change afterSpacedWord? k.word (r ++ rest) = none
    rw [← afterSpacedWord?_trimStart, Text.trimStart_append hrne]
    have hblank : ∀ e ∈ c :: r.takeWhile Text.isBlank, Text.isBlank e = true := by
      intro e he
      rcases List.mem_cons.mp he with rfl | he
      · exact hc
      · exact List.mem_takeWhile_imp he
    have hword : t = (l ++ c :: r.takeWhile Text.isBlank) ++ Text.trimStart r := by
      simp [hsplit, Text.trimStart]
    refine ha.afterSpacedWord?_eq_none hk hword hrne ?_ ?_ ?_ hrest
    · rw [Text.openQuote_append hl']
      exact Text.openQuote_eq_none fun e he => Text.isQuote_eq_false_of_isBlank (hblank e he)
    · intro e he
      rw [List.getLast?_append_of_ne_nil _ (by simp)] at he
      exact hblank e (List.mem_of_mem_getLast? he)
    · exact Text.trimStart_eq_self_iff.mp (Text.trimStart_trimStart r)

end Absent

end NoteVault.Connective
