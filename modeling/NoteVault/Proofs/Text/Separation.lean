import NoteVault.Proofs.Text.Letter
import NoteVault.Proofs.Text.Trim

/-! Splitting at commas, joining the parts and splitting them again. Trimming a part drops blanks only,
which leave a scan where it stands, so that the scan of the joined parts meets each comma as the scan of
the whole text met it. -/

namespace NoteVault.Text

theorem foldr_consHead (s t : Text) (ts : List Text) :
    s.foldr consHead (t :: ts) = (s ++ t) :: ts := by
  induction s with
  | nil => rfl
  | cons c s ih => simp [ih, consHead]

theorem join_cons {sep : Text} {ts : List Text} (t : Text) (hts : ts ≠ []) :
    join sep (t :: ts) = t ++ sep ++ join sep ts := by
  cases ts with
  | nil => contradiction
  | cons u us => rfl

variable {st : Scan} {s t : Text} {ts : List Text}

/-! ### Texts between separating commas -/

/-- Whether no comma of a text separates, in a scan that begins at `st`. -/
def Unbroken (st : Scan) (s : Text) : Prop :=
  ∀ l r, s = l ++ ',' :: r → (l.foldl Scan.step st).isOpen = false

/-- Texts with no separating comma inside of them, but one between each and the next, in a scan that
begins at `st`. -/
inductive Separated : Scan → List Text → Prop
  | last {st : Scan} {s : Text} (unbroken : Unbroken st s) : Separated st [s]
  | next {st : Scan} {s : Text} {ts : List Text} (unbroken : Unbroken st s)
      (isOpen : (s.foldl Scan.step st).isOpen = true)
      (rest : Separated (s.foldl Scan.step st) ts) : Separated st (s :: ts)

theorem unbroken_nil (st : Scan) : Unbroken st [] := by
  intro l r h
  simp at h

theorem Unbroken.cons {c : Char} (hc : ¬(c = ',' && st.isOpen) = true)
    (hs : Unbroken (st.step c) s) : Unbroken st (c :: s) := by
  intro l r h
  cases l with
  | nil =>
    obtain ⟨rfl, -⟩ := List.cons.inj h
    simpa using hc
  | cons d l =>
    obtain ⟨rfl, htail⟩ := List.cons.inj h
    exact hs l r htail

theorem commaPieces_append (h : Unbroken st s) (rest : Text) :
    commaPieces st (s ++ rest) =
      s.foldr consHead (commaPieces (s.foldl Scan.step st) rest) := by
  induction s generalizing st with
  | nil => rfl
  | cons c s ih =>
    have hstep : ¬ (c = ',' && st.isOpen) = true := by
      intro hc
      simp only [Bool.and_eq_true, decide_eq_true_eq] at hc
      have hfirst := h [] s (by rw [hc.1, List.nil_append])
      simp [hc.2] at hfirst
    have hrest := ih fun l r hs => h (c :: l) r (by rw [hs, List.cons_append])
    rw [List.cons_append, commaPieces, if_neg hstep, hrest]
    rfl

theorem Unbroken.commaPieces_eq (h : Unbroken st s) : commaPieces st s = [s] := by
  have hend := commaPieces_append h []
  rwa [List.append_nil, commaPieces, foldr_consHead, List.append_nil] at hend

namespace Separated

theorem ne_nil (h : Separated st ts) : ts ≠ [] := by
  cases h <;> exact List.cons_ne_nil _ _

theorem consHead {c : Char} (hc : ¬(c = ',' && st.isOpen) = true)
    (h : Separated (st.step c) ts) : Separated st (consHead c ts) := by
  cases h with
  | last hs => exact last (hs.cons hc)
  | next hs hopen hrest => exact next (hs.cons hc) hopen hrest

theorem commaPieces_join (h : Separated st ts) : commaPieces st (join [','] ts) = ts := by
  induction h with
  | last hs => exact hs.commaPieces_eq
  | @next st s ts hs hopen hrest ih =>
    have hcomma : commaPieces (s.foldl Scan.step st) (',' :: join [','] ts) = [] :: ts := by
      rw [commaPieces, if_pos (by simpa using hopen), ih]
    rw [join_cons s hrest.ne_nil, List.append_assoc, List.singleton_append, commaPieces_append hs,
      hcomma, foldr_consHead, List.append_nil]

end Separated

theorem separated_commaPieces (st : Scan) (s : Text) : Separated st (commaPieces st s) := by
  induction s generalizing st with
  | nil => exact .last (unbroken_nil st)
  | cons c s ih =>
    unfold commaPieces
    split
    · next hc =>
      have hopen : st.isOpen = true := (Bool.and_eq_true_iff.mp hc).2
      exact .next (unbroken_nil st) hopen (ih st)
    · next hc => exact (ih (st.step c)).consHead hc

/-- The pieces of a text are the texts that its separating commas stand between. -/
theorem commaPieces_eq_iff : commaPieces st s = ts ↔ s = join [','] ts ∧ Separated st ts := by
  constructor
  · rintro rfl
    exact ⟨(join_commaPieces st s).symm, separated_commaPieces st s⟩
  · rintro ⟨rfl, h⟩
    exact h.commaPieces_join

/-! ### Blanks -/

/-- Whether a scan takes nothing but a quote for an open quote. -/
def Scan.IsProper (st : Scan) : Prop := ∀ q ∈ st.quote, isQuote q = true

theorem Scan.isProper_start : IsProper {} := by simp [IsProper]

namespace Scan.IsProper

variable (hst : st.IsProper)

include hst

theorem step (c : Char) : (st.step c).IsProper := by
  unfold Scan.step
  split
  · split
    · simp [IsProper]
    · exact hst
  · split
    · next hc => simpa [IsProper] using hc
    · split_ifs <;> exact hst

theorem foldl_step (s : Text) : (s.foldl Scan.step st).IsProper := by
  induction s generalizing st with
  | nil => exact hst
  | cons c s ih => exact ih (hst.step c)

theorem step_of_isBlank {c : Char} (hc : isBlank c = true) : st.step c = st := by
  have hquote := isQuote_eq_false_of_isBlank hc
  have hbracket : ∀ b ∈ ['(', '[', ')', ']'], c ≠ b := by
    rintro b hb rfl
    simp only [List.mem_cons, List.not_mem_nil, or_false] at hb
    rcases hb with rfl | rfl | rfl | rfl <;> exact absurd hc (by decide)
  unfold Scan.step
  split
  · next q hq =>
    have hne : c ≠ q := by
      rintro rfl
      rw [hst c hq] at hquote
      contradiction
    rw [if_neg hne]
  · simp [hquote, hbracket]

theorem foldl_step_of_isBlank {b : Text} (hb : ∀ c ∈ b, isBlank c = true) :
    b.foldl Scan.step st = st := by
  induction b with
  | nil => rfl
  | cons c b ih =>
    have hstep := hst.step_of_isBlank (hb c List.mem_cons_self)
    rw [List.foldl_cons, hstep, ih fun d hd => hb d (List.mem_cons_of_mem c hd)]

theorem foldl_step_trim (s : Text) : (trim s).foldl Scan.step st = s.foldl Scan.step st := by
  obtain ⟨l, r, hs, hl, hr⟩ := exists_eq_append_trim s
  have hwhole : (l ++ trim s ++ r).foldl Scan.step st = (trim s).foldl Scan.step st := by
    rw [List.foldl_append, List.foldl_append, hst.foldl_step_of_isBlank hl,
      (hst.foldl_step (trim s)).foldl_step_of_isBlank hr]
  rw [← hwhole, ← hs]

theorem unbroken_trim (h : Unbroken st s) : Unbroken st (trim s) := by
  obtain ⟨b, e, hs, hb, -⟩ := exists_eq_append_trim s
  intro l r htrim
  have hcomma := h (b ++ l) (r ++ e) (by rw [hs, htrim]; simp)
  rwa [List.foldl_append, hst.foldl_step_of_isBlank hb] at hcomma

theorem separated_map_trim (h : Separated st ts) : Separated st (ts.map trim) := by
  induction h with
  | last hs => exact .last (hst.unbroken_trim hs)
  | @next st s ts hs hopen hrest ih =>
    have htrimmed := ih (hst.foldl_step s)
    rw [← hst.foldl_step_trim s] at hopen htrimmed
    exact .next (hst.unbroken_trim hs) hopen htrimmed

end Scan.IsProper

/-! ### Splitting and joining -/

/-- What a text is split into are the trimmed texts between its separating commas. -/
theorem splitCommas_eq_iff :
    splitCommas s = ts ↔ ∃ ps, s = join [','] ps ∧ Separated {} ps ∧ ts = ps.map trim := by
  constructor
  · rintro rfl
    obtain ⟨hjoin, hps⟩ := commaPieces_eq_iff.mp (Eq.refl (commaPieces {} s))
    exact ⟨commaPieces {} s, hjoin, hps, rfl⟩
  · rintro ⟨ps, hjoin, hps, rfl⟩
    rw [splitCommas, commaPieces_eq_iff.mpr ⟨hjoin, hps⟩]

theorem separated_splitCommas (s : Text) : Separated {} (splitCommas s) :=
  Scan.isProper_start.separated_map_trim (separated_commaPieces {} s)

theorem trimmed_of_mem_splitCommas (h : t ∈ splitCommas s) : Trimmed t := by
  obtain ⟨p, -, rfl⟩ := List.mem_map.mp h
  exact trim_eq_self_iff.mp (trim_trim p)

/-- A bracket closed once too often is opened again, and a quote that stays open takes all that follows. -/
example : splitCommas ") a , ( b , \"c , (d ".toList =
    [") a".toList, "( b".toList, "\"c , (d".toList] := by decide

/-- The lists of texts that are split again as they were before they were joined. -/
theorem splitCommas_join_eq_self_iff :
    splitCommas (join [','] ts) = ts ↔ Separated {} ts ∧ ∀ t ∈ ts, Trimmed t := by
  constructor
  · intro h
    rw [← h]
    exact ⟨separated_splitCommas _, fun _ => trimmed_of_mem_splitCommas⟩
  · rintro ⟨hts, htrimmed⟩
    have hmap : ts.map trim = ts.map id :=
      List.map_congr_left fun t ht => trim_eq_self_iff.mpr (htrimmed t ht)
    exact splitCommas_eq_iff.mpr ⟨ts, rfl, hts, by rw [hmap, List.map_id]⟩

/-- Splitting a text gives the trimmed texts between its separating commas, and splitting these once more,
joined with commas, changes nothing. -/
theorem splitCommas_join_splitCommas (s : Text) :
    (∃ ps, s = join [','] ps ∧ Separated {} ps ∧ splitCommas s = ps.map trim) ∧
      splitCommas (join [','] (splitCommas s)) = splitCommas s := by
  constructor
  · exact splitCommas_eq_iff.mp rfl
  · rw [splitCommas_join_eq_self_iff]
    exact ⟨separated_splitCommas s, fun _ => trimmed_of_mem_splitCommas⟩

end NoteVault.Text
