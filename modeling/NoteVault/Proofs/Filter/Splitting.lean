import NoteVault.Proofs.Filter.Connective
import NoteVault.Proofs.Text.Comma

/-! Splitting at a connective undoes joining with it. A text that the weaker connective does not
split stays whole when it is part of a text that this connective joins. -/

namespace NoteVault

namespace Text

theorem map_trim_consHead {c : Char} (hc : isBlank c = true) {ts : List Text} (hts : ts ≠ []) :
    (consHead c ts).map trim = ts.map trim := by
  obtain ⟨t, ts, rfl⟩ := List.exists_cons_of_ne_nil hts
  simp [consHead, trim_blank_cons hc]

end Text

namespace Connective

theorem pieces_cons {k : Connective} {quote : Option Char} {c : Char} {s : Text}
    (h : quote = none → k.after? (c :: s) = none) :
    pieces k quote (c :: s) = Text.consHead c (pieces k (Text.quoteStep quote c) s) := by
  rw [pieces.eq_def]
  cases quote with
  | some q => rfl
  | none =>
    simp only [Text.quoteStep]
    split
    · rfl
    · split
      · next rest hrest =>
        rw [h rfl] at hrest
        contradiction
      · rfl

theorem pieces_of_after? {k : Connective} {c : Char} {s rest : Text}
    (hc : Text.isQuote c = false) (h : k.after? (c :: s) = some rest) :
    pieces k none (c :: s) = [] :: pieces k none rest := by
  rw [pieces.eq_def]
  simp only [hc, Bool.false_eq_true, if_false]
  split
  · next rest' hrest =>
    rw [h] at hrest
    rw [Option.some.inj hrest]
  · next hrest =>
    rw [h] at hrest
    contradiction

theorem pieces_append {k : Connective} {s rest : Text} {quote : Option Char}
    (h : ∀ l c r, s = l ++ c :: r → l.foldl Text.quoteStep quote = none →
      k.after? (c :: r ++ rest) = none) :
    pieces k quote (s ++ rest) =
      s.foldr Text.consHead (pieces k (s.foldl Text.quoteStep quote) rest) := by
  induction s generalizing quote with
  | nil => rfl
  | cons c s ih =>
    have hhead : quote = none → k.after? (c :: (s ++ rest)) = none := fun hq => h [] c s rfl hq
    have htail := ih fun l d r hs hl => h (c :: l) d r (by rw [hs, List.cons_append]) hl
    rw [List.cons_append, pieces_cons hhead, htail]
    rfl

theorem Clear.pieces {k : Connective} {s rest : Text} (h : k.Clear s rest)
    (hclosed : Text.openQuote s = none) :
    pieces k none (s ++ rest) = s.foldr Text.consHead (pieces k none rest) := by
  rw [pieces_append h]
  exact congrArg (fun q => s.foldr Text.consHead (k.pieces q rest)) hclosed

/-- A text that a connective neither splits nor, behind a space, joins to what stands in front of
it. -/
structure Block (k : Connective) (t : Text) : Prop where
  ne_nil : t ≠ []
  trimmed : Text.Trimmed t
  closed : Text.openQuote t = none
  clear : ∀ rest : Text, (∀ c ∈ rest.head?, c = ' ') → k.Clear (' ' :: t) rest

variable {k : Connective} {s t : Text} {ts : List Text}

theorem Block.after?_space (h : k.Block t) {rest : Text} (hrest : ∀ c ∈ rest.head?, c = ' ') :
    k.after? (' ' :: (t ++ rest)) = none :=
  h.clear rest hrest [] ' ' t rfl rfl

theorem Block.pieces (h : k.Block t) {rest : Text} (hrest : ∀ c ∈ rest.head?, c = ' ') :
    pieces k none (t ++ rest) = t.foldr Text.consHead (pieces k none rest) :=
  ((h.clear rest hrest).of_cons rfl).pieces h.closed

theorem Joined.ne_nil (h : k.Joined ts s) : ts ≠ [] := by
  cases h with
  | single => exact List.cons_ne_nil s []
  | @cons t sep s ts => exact List.cons_ne_nil t ts

theorem Joined.eq_append (h : k.Joined ts s) :
    ∃ t ∈ ts, ∃ rest : Text, s = t ++ rest ∧ ∀ c ∈ rest.head?, c = ' ' := by
  cases h with
  | single => exact ⟨s, by simp, [], by simp, by simp⟩
  | @cons t sep s ts hsep hs =>
    obtain ⟨w, rfl, -⟩ := hsep
    exact ⟨t, by simp, _, by rw [List.append_assoc], by simp⟩

theorem Joined.after?_space (h : k.Joined ts s) (hts : ∀ t ∈ ts, k.Block t) :
    k.after? (' ' :: s) = none := by
  obtain ⟨t, ht, rest, rfl, hrest⟩ := h.eq_append
  exact (hts t ht).after?_space hrest

theorem Joined.trimStart (h : k.Joined ts s) (hts : ∀ t ∈ ts, k.Block t) :
    Text.trimStart s = s ∧ s ≠ [] := by
  obtain ⟨t, ht, rest, rfl, -⟩ := h.eq_append
  have hne := (hts t ht).ne_nil
  rw [Text.trimStart_eq_self_iff, List.head?_append_of_ne_nil _ hne]
  exact ⟨(hts t ht).trimmed.1, List.append_ne_nil_of_left_ne_nil hne rest⟩

theorem after?_word (hk : k.Plain) {w s : Text} (hw : Text.alike w k.word = true)
    (hs : Text.trimStart s = s ∧ s ≠ []) : k.after? (' ' :: (w ++ ' ' :: s)) = some s := by
  have hwne := hk.ne_nil (Or.inr hw)
  have hstart : Text.trimStart (' ' :: (w ++ ' ' :: s)) = w ++ ' ' :: s := by
    rw [Text.trimStart_blank_cons rfl, Text.trimStart_eq_self_iff,
      List.head?_append_of_ne_nil _ hwne]
    exact fun c hc => (hk.written (Or.inr hw) c (List.mem_of_mem_head? hc)).1
  have hword : afterWord? k.word (w ++ ' ' :: s) = some (' ' :: s) :=
    afterWord?_eq_some_iff.mpr ⟨w, rfl, hw⟩
  have hspaced : afterSpacedWord? k.word (' ' :: (w ++ ' ' :: s)) = some s := by
    rw [afterSpacedWord?, hstart, hword]
    simp [hs.1, hs.2, show Text.isBlank ' ' = true from rfl]
  rw [after?, hk.after?_symbol_blank rfl]
  exact hspaced

theorem after?_space_symbol (hk : k.Plain) (s : Text) :
    k.after? (' ' :: (k.symbol ++ s)) = none := by
  refine after?_eq_none (hk.after?_symbol_blank rfl _) fun _ => ?_
  rw [Option.eq_none_iff_forall_not_mem]
  intro q hq
  obtain ⟨w, c, x, hs, hw, -⟩ := exists_of_afterSpacedWord? hq
  obtain ⟨a, symbol, hsymbol⟩ := List.exists_cons_of_ne_nil k.symbol_ne_nil
  have ha := hk.symbol a (by simp [hsymbol])
  rw [hsymbol, List.cons_append, Text.trimStart_eq_self_iff.mpr (by simpa using ha.1)] at hs
  obtain ⟨b, w, rfl⟩ := List.exists_cons_of_ne_nil (hk.ne_nil (Or.inr hw))
  have hb := Text.isAlpha_of_alike hw hk.word b (by simp)
  rw [← (List.cons.inj hs).1, ha.2.2] at hb
  contradiction

theorem pieces_symbol (hk : k.Plain) (s : Text) :
    pieces k none (k.symbol ++ s) = [] :: pieces k none s := by
  obtain ⟨a, symbol, hsymbol⟩ := List.exists_cons_of_ne_nil k.symbol_ne_nil
  have hafter : k.after? (k.symbol ++ s) = some s := by
    rw [after?, Text.after?_append]
  rw [hsymbol, List.cons_append] at hafter ⊢
  exact pieces_of_after? (hk.symbol a (by simp [hsymbol])).2.1 hafter

theorem split_append (hk : k.Plain) {sep : Text} (hsep : k.Written sep) (ht : k.Block t)
    (hs : k.after? (' ' :: s) = none) (hs' : Text.trimStart s = s ∧ s ≠ []) :
    k.split (t ++ sep ++ s) = t :: k.split s := by
  obtain ⟨w, rfl, hw⟩ := hsep
  have htext : t ++ ' ' :: (w ++ [' ']) ++ s = t ++ ' ' :: (w ++ ' ' :: s) := by simp
  have htrim : Text.trim t = t := Text.trim_eq_self_iff.mpr ht.trimmed
  rw [split, htext, ht.pieces (by simp)]
  rcases hw with rfl | hw
  · have hspace : pieces k none (' ' :: s) = Text.consHead ' ' (pieces k none s) :=
      pieces_cons fun _ => hs
    rw [pieces_cons fun _ => after?_space_symbol hk _]
    change List.map Text.trim (t.foldr Text.consHead
      (Text.consHead ' ' (pieces k none (k.symbol ++ ' ' :: s)))) = _
    rw [pieces_symbol hk, hspace, Text.consHead, Text.foldr_consHead, List.map_cons,
      Text.trim_append_blank rfl, htrim, Text.map_trim_consHead rfl (pieces_ne_nil k none s)]
    rfl
  · rw [pieces_of_after? rfl (after?_word hk hw hs'), Text.foldr_consHead, List.map_cons,
      List.append_nil, htrim]
    rfl

theorem Absent.block (hk : k.Plain) (ha : k.Absent t) (hne : t ≠ []) (ht : Text.Trimmed t)
    (hclosed : Text.openQuote t = none) : k.Block t :=
  ⟨hne, ht, hclosed, fun _ hrest => ha.clear hk ht hne hrest⟩

/-- The sign of a connective in which no sign of another one begins. -/
def Foreign (k k' : Connective) : Prop :=
  ∀ w s : Text, (w = k'.symbol ∨ Text.alike w k'.word = true) → k.Clear (' ' :: w) (' ' :: s)

theorem Joined.trimmed (h : k.Joined ts s) (hts : ∀ t ∈ ts, t ≠ [] ∧ Text.Trimmed t) :
    s ≠ [] ∧ Text.Trimmed s := by
  induction h with
  | single t => exact hts t (by simp)
  | @cons t sep s ts hsep hs ih =>
    obtain ⟨hne, ht⟩ := hts t (by simp)
    obtain ⟨hne', hs'⟩ := ih fun u hu => hts u (List.mem_cons_of_mem _ hu)
    rw [List.append_assoc]
    exact ⟨List.append_ne_nil_of_left_ne_nil hne _,
      List.append_assoc t sep s ▸ ht.append hne hs' hne' sep⟩

/-- What a stronger connective joins is a block for a weaker one, if its parts are. -/
theorem Joined.block {k' : Connective} (hk : k.Foreign k') (hk' : k'.Plain) (h : k'.Joined ts s)
    (hts : ∀ t ∈ ts, k.Block t) : k.Block s := by
  obtain ⟨hne, htrimmed⟩ := h.trimmed fun t ht => ⟨(hts t ht).ne_nil, (hts t ht).trimmed⟩
  induction h with
  | single t => exact hts t (by simp)
  | @cons t sep s ts hsep hs ih =>
    obtain ⟨w, rfl, hw⟩ := hsep
    have ht := hts t (by simp)
    have hts' := fun u hu => hts u (List.mem_cons_of_mem _ hu)
    obtain ⟨hne', htrimmed'⟩ := hs.trimmed fun t ht => ⟨(hts' t ht).ne_nil, (hts' t ht).trimmed⟩
    have ih := ih hts' hne' htrimmed'
    have hclosed : Text.openQuote (' ' :: w) = none :=
      Text.openQuote_eq_none (List.forall_mem_cons.mpr
        ⟨rfl, fun c hc => (hk'.written hw c hc).2⟩)
    have htext : t ++ ' ' :: (w ++ [' ']) ++ s = t ++ (' ' :: w ++ ' ' :: s) := by simp
    refine ⟨hne, htrimmed, ?_, ?_⟩ <;> rw [htext]
    · rw [Text.openQuote_append ht.closed, Text.openQuote_append hclosed]
      exact ih.closed
    · -- No sign begins in `t`, in the sign behind it, or in what follows that.
      intro rest hrest
      have hwhole := (hk w (s ++ rest) hw).append hclosed (ih.clear rest hrest)
      have ht' : Text.openQuote (' ' :: t) = none := ht.closed
      exact (ht.clear _ (by simp)).append ht' hwhole

theorem foreign_disjunction_conjunction : disjunction.Foreign conjunction := by
  intro w s hw
  have hhead : ∀ c r, w = c :: r → c.toLower ≠ 'o' := by
    rintro c r rfl hc
    rcases hw with hw | hw
    · rw [(List.cons.inj hw).1] at hc
      exact absurd hc (by decide)
    · obtain ⟨d, q, hd, hlower, -⟩ := Text.alike_cons_iff.mp hw
      rw [← (List.cons.inj hd).1, hc] at hlower
      exact absurd hlower (by decide)
  have hbar : ∀ c ∈ w, c ≠ '|' := by
    rintro c hc rfl
    rcases hw with rfl | hw
    · exact absurd hc (by decide)
    · exact absurd (Text.isAlpha_of_alike hw plain_conjunction.word _ hc) (by decide)
  have hblank := fun c hc => (plain_conjunction.written hw c hc).1
  obtain ⟨a, q, rfl⟩ := List.exists_cons_of_ne_nil (plain_conjunction.ne_nil hw)
  intro l c r h hl
  cases l with
  | nil =>
    obtain ⟨rfl, rfl⟩ := List.cons.inj h
    refine after?_eq_none (plain_disjunction.after?_symbol_blank rfl _) fun _ => ?_
    rw [Option.eq_none_iff_forall_not_mem]
    intro x hx
    obtain ⟨w, d, y, hs, hw', -⟩ := exists_of_afterSpacedWord? hx
    change Text.trimStart (a :: (q ++ ' ' :: s)) = w ++ d :: y at hs
    rw [Text.trimStart_eq_self_iff.mpr (by simpa using hblank a (by simp))] at hs
    obtain ⟨b, w, rfl, hlower, -⟩ := Text.alike_cons_iff.mp hw'
    exact hhead a q rfl ((List.cons.inj hs).1 ▸ hlower.symm)
  | cons d l =>
    have hc : c ∈ a :: q := by
      rw [show a :: q = l ++ c :: r from (List.cons.inj h).2]
      simp
    refine after?_eq_none ?_ fun hb => ?_
    · have hne : ¬ '|' = c := fun hb => hbar c hc hb.symm
      exact if_neg hne
    · rw [hblank c hc] at hb
      contradiction

/-- Splitting at a connective undoes joining with it. -/
theorem Joined.split_eq (hk : k.Plain) (h : k.Joined ts s) (hts : ∀ t ∈ ts, k.Block t) :
    k.split s = ts := by
  induction h with
  | single t =>
    have ht := hts t (by simp)
    have hpieces : pieces k none (t ++ []) = t.foldr Text.consHead (pieces k none []) :=
      ht.pieces (by simp)
    rw [List.append_nil] at hpieces
    rw [split, hpieces, pieces, Text.foldr_consHead]
    simp [Text.trim_eq_self_iff.mpr ht.trimmed]
  | cons hsep hs ih =>
    have hts' := fun t ht => hts t (List.mem_cons_of_mem _ ht)
    rw [split_append hk hsep (hts _ (by simp)) (hs.after?_space hts') (hs.trimStart hts'), ih hts']

end Connective

end NoteVault
