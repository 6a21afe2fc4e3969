import Mathlib.Algebra.Group.Nat.Even
import NoteVault.Proofs.Filter.Whole

/-! Statements behind negations. What is no statement passes with a warning, and each negation turns
that round. Behind the word for a negation, the word of a connective splits a text that begins with
it. -/

namespace NoteVault

/-- A negation as it stands in front of a statement. -/
inductive Negation where
  | sign
  | word
  deriving DecidableEq, Repr

namespace Negation

def text : Negation → Text
  | sign => "!"
  | word => "not "

end Negation

/-- A text behind some negations. -/
def negated (ns : List Negation) (u : Text) : Text := ns.flatMap Negation.text ++ u

/-- The word of a connective and a blank stand at the beginning of a text. -/
def Connective.Leads (k : Connective) (s : Text) : Prop :=
  ∃ w c r, s = w ++ c :: r ∧ Text.alike w k.word = true ∧ Text.isBlank c = true

/-- The last negation is a word and makes a word between blanks of the one that the text begins
with. -/
def Swallowed (ns : List Negation) (u : Text) : Prop :=
  ns.getLast? = some .word ∧ (Connective.disjunction.Leads u ∨ Connective.conjunction.Leads u)

theorem negated_cons (m : Negation) (ns : List Negation) (u : Text) :
    negated (m :: ns) u = m.text ++ negated ns u := by
  simp [negated]

theorem negated_append (ms ns : List Negation) (u : Text) :
    negated (ms ++ ns) u = negated ms (negated ns u) := by
  simp [negated]

section Trimmed

variable {u : Text}

theorem negated_ne_nil (hne : u ≠ []) (ns : List Negation) : negated ns u ≠ [] := by
  simp [negated, hne]

theorem trim_negated (hne : u ≠ []) (hu : Text.trim u = u) (ns : List Negation) :
    Text.trim (negated ns u) = negated ns u := by
  rw [Text.trim_eq_self_iff] at hu ⊢
  constructor
  · cases ns with
    | nil => exact hu.1
    | cons m ns =>
      rw [negated_cons]
      cases m with
      | sign => simp [Negation.text, Text.isBlank]
      | word => simp [Negation.text, Text.isBlank]
  · rw [negated, List.getLast?_append_of_ne_nil _ hne]
    exact hu.2

end Trimmed

namespace Connective

variable {k : Connective} {s u : Text}

theorem after?_space_of_not_leads (hk : k.Plain) (hs : Text.trim s = s) (h : ¬k.Leads s) :
    k.after? (' ' :: s) = none := by
  refine after?_eq_none (hk.after?_symbol_blank (by decide) s) fun _ => ?_
  rw [Option.eq_none_iff_forall_not_mem]
  intro q hq
  obtain ⟨w, c, r, hw, halike, hc⟩ := exists_of_afterSpacedWord? hq
  rw [Text.trimStart_of_trim hs] at hw
  exact h ⟨w, c, r, hw, halike, hc⟩

theorem after?_space_of_leads (hk : k.Plain) (hs : Text.trim s = s) (h : k.Leads s) :
    ∃ rest, k.after? (' ' :: s) = some rest ∧ rest.length < s.length := by
  obtain ⟨w, c, r, rfl, hw, hc⟩ := h
  have hlast : ∀ e ∈ (c :: r).getLast?, Text.isBlank e = false := by
    intro e he
    refine (Text.trim_eq_self_iff.mp hs).2 e ?_
    rwa [List.getLast?_append_of_ne_nil _ (by simp)]
  have hrest := Text.trimStart_ne_nil (by simp) hlast
  rw [Text.trimStart_blank_cons hc] at hrest
  have hstart : Text.trimStart (' ' :: (w ++ c :: r)) = w ++ c :: r := by
    rw [Text.trimStart_blank_cons rfl, Text.trimStart_of_trim hs]
  have hword : afterWord? k.word (w ++ c :: r) = some (c :: r) :=
    afterWord?_eq_some_iff.mpr ⟨w, rfl, hw⟩
  have hspaced : afterSpacedWord? k.word (' ' :: (w ++ c :: r)) = some (Text.trimStart r) := by
    rw [afterSpacedWord?, hstart, hword]
    simp [hc, hrest]
  refine ⟨Text.trimStart r, ?_, ?_⟩
  · rw [after?, hk.after?_symbol_blank rfl]
    exact hspaced
  · have hle := Text.length_trimStart_le r
    simp
    omega

/-- No connective has a word that begins as a negation does. -/
theorem not_leads_cons (hk : k ∈ [disjunction, conjunction]) {c : Char} (hc : c ∈ ['!', 'n'])
    (s : Text) : ¬k.Leads (c :: s) := by
  rintro ⟨w, d, r, hs, hw, -⟩
  obtain ⟨a, word, hword, ha⟩ : ∃ a word, k.word = a :: word ∧ (a = 'o' ∨ a = 'a') := by
    simp only [List.mem_cons, List.not_mem_nil, or_false] at hk
    rcases hk with rfl | rfl
    · exact ⟨'o', ['r'], rfl, .inl rfl⟩
    · exact ⟨'a', ['n', 'd'], rfl, .inr rfl⟩
  rw [hword] at hw
  obtain ⟨e, w, rfl, he, -⟩ := Text.alike_cons_iff.mp hw
  obtain rfl : c = e := (List.cons.inj hs).1
  simp only [List.mem_cons, List.not_mem_nil, or_false] at hc
  rcases ha with rfl | rfl
  · rcases hc with rfl | rfl <;> exact absurd he (by decide)
  · rcases hc with rfl | rfl <;> exact absurd he (by decide)

theorem not_leads_negation (hk : k ∈ [disjunction, conjunction]) (m : Negation) (s : Text) :
    ¬k.Leads (m.text ++ s) := by
  cases m with
  | sign => exact not_leads_cons hk (by decide) _
  | word => exact not_leads_cons hk (by decide) _

theorem pieces_sign (hk : k ∈ [disjunction, conjunction]) (s : Text) :
    pieces k none ("!" ++ s) = ("!" : Text).foldr Text.consHead (pieces k none s) :=
  (unsplit_of_isInert (List.all_eq_true.mp rfl) s).pieces hk

theorem pieces_word (hk : k ∈ [disjunction, conjunction]) (s : Text) :
    pieces k none ("not" ++ s) = ("not" : Text).foldr Text.consHead (pieces k none s) :=
  (unsplit_of_isInert (List.all_eq_true.mp rfl) s).pieces hk

theorem pieces_negation (hk : k ∈ [disjunction, conjunction]) {m : Negation}
    (hs : Text.trim s = s) (h : m = .word → ¬k.Leads s) :
    pieces k none (m.text ++ s) = m.text.foldr Text.consHead (pieces k none s) := by
  cases m with
  | sign => exact pieces_sign hk s
  | word =>
    have hnone := after?_space_of_not_leads (plain_of_mem hk) hs (h rfl)
    have hspace : pieces k none (' ' :: s) = Text.consHead ' ' (pieces k none s) :=
      pieces_cons fun _ => hnone
    have hword := pieces_word hk (' ' :: s)
    rw [hspace] at hword
    exact hword

theorem pieces_negated (hk : k ∈ [disjunction, conjunction]) (hne : u ≠ [])
    (hu : Text.trim u = u) {ns : List Negation} (h : ns.getLast? = some .word → ¬k.Leads u) :
    pieces k none (negated ns u) =
      (ns.flatMap Negation.text).foldr Text.consHead (pieces k none u) := by
  induction ns with
  | nil => rfl
  | cons m ns ih =>
    have hleads : m = .word → ¬k.Leads (negated ns u) := by
      rintro rfl
      cases ns with
      | nil => exact h rfl
      | cons m ns =>
        rw [negated_cons]
        exact not_leads_negation hk m _
    have hrest : ns.getLast? = some .word → ¬k.Leads u := by
      intro hlast
      refine h ?_
      rw [List.getLast?_cons, hlast]
      rfl
    rw [negated_cons, pieces_negation hk (trim_negated hne hu ns) hleads, ih hrest,
      List.flatMap_cons, List.foldr_append]

theorem length_split_negated (hk : k ∈ [disjunction, conjunction]) (hne : u ≠ [])
    (hu : Text.trim u = u) {ns : List Negation} (h : ns.getLast? = some .word → ¬k.Leads u) :
    (k.split (negated ns u)).length = (k.split u).length := by
  obtain ⟨t, ts, hts⟩ := List.exists_cons_of_ne_nil (pieces_ne_nil k none u)
  have hpieces := pieces_negated hk hne hu h
  rw [hts, Text.foldr_consHead] at hpieces
  simp [split, hpieces, hts]

/-- Behind the word for a negation, a text that begins with the word of a connective is split. -/
theorem split_negated_word (hk : k ∈ [disjunction, conjunction]) (hne : u ≠ [])
    (hu : Text.trim u = u) (h : k.Leads u) (ms : List Negation) :
    ∃ ts, ts ≠ [] ∧ k.split (negated (ms ++ [.word]) u) = negated ms "not" :: ts ∧
      ∀ t ∈ ts, t.length < u.length := by
  obtain ⟨rest, hafter, hlt⟩ := after?_space_of_leads (plain_of_mem hk) hu h
  have hsplit : pieces k none (' ' :: u) = [] :: pieces k none rest :=
    pieces_of_after? (by decide) hafter
  have hword := pieces_word hk (' ' :: u)
  rw [hsplit, Text.foldr_consHead, List.append_nil] at hword
  have hwhole : pieces k none (negated (ms ++ [.word]) u) =
      negated ms "not" :: pieces k none rest := by
    have hlast : negated [.word] u = "not" ++ ' ' :: u := rfl
    have hprefixed : pieces k none (negated ms (negated [.word] u)) =
        (ms.flatMap Negation.text).foldr Text.consHead (pieces k none (negated [.word] u)) :=
      pieces_negated hk (by simp [hlast]) (trim_negated hne hu [.word])
        fun _ => not_leads_negation hk .word u
    rw [negated_append, hprefixed, hlast, hword, Text.foldr_consHead, negated]
  have htrim := trim_negated (u := "not") (by decide) (by decide) ms
  refine ⟨(pieces k none rest).map Text.trim, ?_, ?_, ?_⟩
  · simp [pieces_ne_nil k none rest]
  · rw [split, hwhole, List.map_cons, htrim]
  · intro t ht
    obtain ⟨p, hp, rfl⟩ := List.mem_map.mp ht
    have hle := Text.length_trim_le p
    have hpiece := length_add_length_pieces_le k none rest p hp
    have hpos := List.length_pos_iff.mpr (pieces_ne_nil k none rest)
    omega

end Connective

theorem Outcome.negate_iterate (k : Nat) (warnings : List Text) :
    Outcome.negate^[k] ⟨true, warnings⟩ = ⟨decide (Even k), warnings⟩ := by
  induction k with
  | zero => rfl
  | succ k ih =>
    rw [Function.iterate_succ_apply', ih, negate]
    simp only [Nat.even_add_one, decide_not]

theorem Outcome.warnings_negate_iterate (k : Nat) (o : Outcome) :
    (Outcome.negate^[k] o).warnings = o.warnings := by
  induction k with
  | zero => rfl
  | succ k ih => rw [Function.iterate_succ_apply', negate, ih]

namespace Condition

variable {n : Note} {fs : Formulas} {u : Text} {ns : List Negation}

theorem isWhole_negated (hu : IsWhole u) (h : ¬Swallowed ns u) : IsWhole (negated ns u) := by
  refine ⟨negated_ne_nil hu.ne_nil ns, trim_negated hu.ne_nil hu.trimmed ns, ?_, ?_⟩
  · rw [Connective.length_split_negated (by simp) hu.ne_nil hu.trimmed, hu.disjunction]
    exact fun hlast hleads => h ⟨hlast, .inl hleads⟩
  · rw [Connective.length_split_negated (by simp) hu.ne_nil hu.trimmed, hu.conjunction]
    exact fun hlast hleads => h ⟨hlast, .inr hleads⟩

theorem negated?_negation (m : Negation) {s : Text} (hs : Text.trim s = s) :
    negated? (m.text ++ s) = some s := by
  have hstart := Text.trimStart_of_trim hs
  cases m with
  | sign =>
    change some (Text.trimStart s) = some s
    rw [hstart]
  | word =>
    have hword : Connective.afterWord? "not" (Negation.word.text ++ s) = some (' ' :: s) :=
      Connective.afterWord?_eq_some_iff.mpr ⟨"not", rfl, by decide⟩
    have hblank : Text.trimStart (' ' :: s) = s := by
      rw [Text.trimStart_blank_cons (by decide), hstart]
    unfold negated?
    split
    · next r hr => exact absurd (List.cons.inj hr).1 (by decide)
    · rw [hword]
      simp [hblank, Text.isBlank]

/-- Each negation turns the outcome of a text round that stays in one piece. -/
theorem evaluate_negated (hu : IsWhole u) (h : ¬Swallowed ns u) :
    evaluate n fs (negated ns u) = Outcome.negate^[ns.length] (evaluate n fs u) := by
  induction ns with
  | nil => rfl
  | cons m ns ih =>
    have hrest : ¬Swallowed ns u := by
      rintro ⟨hlast, hleads⟩
      refine h ⟨?_, hleads⟩
      rw [List.getLast?_cons, hlast]
      rfl
    have hwhole := isWhole_negated hu h
    have htrim := trim_negated hu.ne_nil hu.trimmed ns
    rw [negated_cons] at hwhole ⊢
    rw [List.length_cons, Function.iterate_succ_apply', ← ih hrest, evaluate,
      ofText_not hwhole (negated?_negation m htrim), outcome]
    rfl

theorem isWhole_not : IsWhole "not" := by
  have htrim : Text.Trimmed "not" := Text.trim_eq_self_iff.mp (by decide)
  have hinert := List.all_eq_true.mp (rfl : ("not".toList.all Connective.isInert) = true)
  exact Connective.isWhole_of_unsplit (by decide) htrim (Connective.unsplit_of_isInert hinert [])

/-- The word for a negation without a statement behind it is a reference. -/
theorem warnings_not : (evaluate n fs "not").warnings = [] := by
  have hreads := reads_ofText "not"
  have htrim : Text.trim "not" = "not".toList := isWhole_not.trimmed
  rw [evaluate]
  generalize ofText "not" = c at hreads ⊢
  cases hreads with
  | pass _ | predicate _ _ _ => rfl
  | any _ hany =>
    rw [htrim, isWhole_not.disjunction] at hany
    contradiction
  | all _ _ hall =>
    rw [htrim, isWhole_not.conjunction] at hall
    contradiction
  | not _ hr =>
    have hnone : negated? "not" = none := by decide
    rw [htrim, hnone] at hr
    contradiction
  | unrecognized _ _ hp =>
    rw [htrim] at hp
    exact absurd hp (by decide)

theorem warnings_negated_not (ms : List Negation) :
    (evaluate n fs (negated ms "not")).warnings = [] := by
  have hfree : ¬Swallowed ms "not" := by
    rintro ⟨-, hleads | hleads⟩
    · exact Connective.not_leads_cons (by simp) (by decide) _ hleads
    · exact Connective.not_leads_cons (by simp) (by decide) _ hleads
  rw [evaluate_negated isWhole_not hfree, Outcome.warnings_negate_iterate, warnings_not]

theorem exists_pieces_of_swallowed (hu : IsWhole u) (h : Swallowed ns u) :
    ∃ ms ts, (∀ t ∈ ts, t.length < u.length) ∧
      (ofText (negated ns u) = .any ((negated ms "not" :: ts).map ofText) ∨
        ofText (negated ns u) = .all ((negated ms "not" :: ts).map ofText)) := by
  obtain ⟨hlast, hleads⟩ := h
  obtain ⟨ms, rfl⟩ := List.getLast?_eq_some_iff.mp hlast
  have hne := negated_ne_nil hu.ne_nil (ms ++ [.word])
  have htrim := trim_negated hu.ne_nil hu.trimmed (ms ++ [.word])
  by_cases hor : Connective.disjunction.Leads u
  · obtain ⟨ts, hts, hsplit, hshort⟩ :=
      Connective.split_negated_word (by simp) hu.ne_nil hu.trimmed hor ms
    have hlength := List.length_pos_iff.mpr hts
    refine ⟨ms, ts, hshort, .inl ?_⟩
    rw [ofText_any hne htrim (by rw [hsplit, List.length_cons]; omega), hsplit]
  · have hand := hleads.resolve_left hor
    obtain ⟨ts, hts, hsplit, hshort⟩ :=
      Connective.split_negated_word (by simp) hu.ne_nil hu.trimmed hand ms
    have hlength := List.length_pos_iff.mpr hts
    have hwhole : (Connective.disjunction.split (negated (ms ++ [.word]) u)).length = 1 := by
      rw [Connective.length_split_negated (by simp) hu.ne_nil hu.trimmed fun _ => hor,
        hu.disjunction]
    refine ⟨ms, ts, hshort, .inr ?_⟩
    rw [ofText_all hne htrim hwhole (by rw [hsplit, List.length_cons]; omega), hsplit]

/-- A text that is taken apart gives no warning about the whole of it. -/
theorem warning_not_mem_of_swallowed (hu : IsWhole u) (h : Swallowed ns u) :
    warning u ∉ (evaluate n fs (negated ns u)).warnings := by
  intro hmem
  obtain ⟨ms, ts, hshort, hread⟩ := exists_pieces_of_swallowed hu h
  obtain ⟨t, ht, hw⟩ := exists_of_mem_warnings hread hmem
  rcases List.mem_cons.mp ht with rfl | ht
  · rw [warnings_negated_not] at hw
    contradiction
  · have hle := length_le_of_warning hw
    have hlt := hshort t ht
    omega

example : evaluate (Note.ofMarkdown "N.md" [] {}) .empty "not or foo(" = ⟨true, [warning "foo("]⟩ := by
  decide +kernel

end Condition

theorem Filter.outcome_not_iterate (n : Note) (fs : Formulas) (k : Nat) (f : Filter) :
    Filter.outcome n fs (Filter.not^[k] f) = Outcome.negate^[k] (Filter.outcome n fs f) := by
  induction k with
  | zero => rfl
  | succ k ih =>
    rw [Function.iterate_succ_apply', Function.iterate_succ_apply', Filter.outcome, ih]

/-- What is no statement passes behind an even number of negations only. Its warning is kept, unless
the last negation is a word and splits it. -/
theorem unrecognized_passes_iff (n : Note) (fs : Formulas) {u : Text}
    (hu : Condition.evaluate n fs u = ⟨true, [Condition.warning u]⟩) :
    (∀ ns,
      ((Condition.evaluate n fs (negated ns u)).ok = true ∧
          Condition.warning u ∈ (Condition.evaluate n fs (negated ns u)).warnings ↔
        Even ns.length ∧ ¬Swallowed ns u) ∧
      (¬Swallowed ns u → Condition.evaluate n fs (negated ns u) =
        ⟨decide (Even ns.length), [Condition.warning u]⟩)) ∧
    (∀ k, Filter.evaluate n fs (some (Filter.not^[k] (.statement u))) =
      ⟨decide (Even k), [Condition.warning u]⟩) ∧
    ∀ k v, Filter.evaluate n fs (some (Filter.not^[k] (.unsupported v))) =
      ⟨decide (Even k), [Filter.unsupportedWarning]⟩ := by
  have hwarned : Condition.warning u ∈ (Condition.evaluate n fs u).warnings := by simp [hu]
  have hwhole := Condition.isWhole_of_unrecognized (Condition.ofText_of_warning hwarned)
  have hfree : ∀ ns, ¬Swallowed ns u → Condition.evaluate n fs (negated ns u) =
      ⟨decide (Even ns.length), [Condition.warning u]⟩ := by
    intro ns h
    rw [Condition.evaluate_negated hwhole h, hu, Outcome.negate_iterate]
  refine ⟨fun ns => ⟨?_, hfree ns⟩, fun k => ?_, fun k v => ?_⟩
  · by_cases h : Swallowed ns u
    · have hlost : Condition.warning u ∉ (Condition.evaluate n fs (negated ns u)).warnings :=
        Condition.warning_not_mem_of_swallowed hwhole h
      simp [h, hlost]
    · simp [hfree ns h, h]
  · change Filter.outcome n fs (Filter.not^[k] (.statement u)) = _
    rw [Filter.outcome_not_iterate, Filter.outcome, hu, Outcome.negate_iterate]
  · change Filter.outcome n fs (Filter.not^[k] (.unsupported v)) = _
    rw [Filter.outcome_not_iterate, Filter.outcome, Outcome.negate_iterate]

theorem unrecognized_passes_iff_openCall :
    Condition.evaluate (Note.ofMarkdown "N.md" [] {}) .empty "file.mystery(1, 2" =
        ⟨true, [Condition.warning "file.mystery(1, 2"]⟩ ∧
      Condition.evaluate (Note.ofMarkdown "N.md" [] {}) .empty "not !file.mystery(1, 2" =
        ⟨true, [Condition.warning "file.mystery(1, 2"]⟩ := by
  have hu : Condition.evaluate (Note.ofMarkdown "N.md" [] {}) .empty "file.mystery(1, 2" =
      ⟨true, [Condition.warning "file.mystery(1, 2"]⟩ := by decide +kernel
  have hfree : ¬Swallowed [.word, .sign] "file.mystery(1, 2" := by
    rintro ⟨hlast, -⟩
    contradiction
  have htwice := unrecognized_passes_iff (Note.ofMarkdown "N.md" [] {}) .empty hu
  exact ⟨hu, (htwice.1 [.word, .sign]).2 hfree⟩

/-- A note that passes what is no statement is hidden by its negation. -/
theorem evaluate_sign_openCall :
    Condition.evaluate (Note.ofMarkdown "N.md" [] {}) .empty "file.mystery(1, 2" =
        ⟨true, [Condition.warning "file.mystery(1, 2"]⟩ ∧
      Condition.evaluate (Note.ofMarkdown "N.md" [] {}) .empty "!file.mystery(1, 2" =
        ⟨false, [Condition.warning "file.mystery(1, 2"]⟩ := by
  decide +kernel

end NoteVault
