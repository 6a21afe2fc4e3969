import Mathlib.Data.List.TakeWhile
import NoteVault.Yaml.Token.Property
import NoteVault.Yaml.Token.Scalar

/-!
A document that begins on a later line, and the readers of YAML text. Each of them fails, stops on an
earlier line, or stops at the beginning of that document.
-/

namespace NoteVault.Yaml

variable {doc s t rest : Text} {m m' : Mark} {c : Char}

/-- Whether a text begins with the mark of a document. -/
def BeginsDocument (s : Text) : Prop := ∃ t, s = "---" ++ t ∧ atBlank t = true

/-- Whether some text stands behind a line end of another one. -/
def Later (doc s : Text) : Prop := ∃ a e, isLineEnd e = true ∧ s = a ++ e :: doc

/-- Whether some text is still to come: later, or at once at the beginning of a line. -/
def Ahead (doc : Text) (m : Mark) (s : Text) : Prop := Later doc s ∨ s = doc ∧ m.column = 0

theorem isLineEnd_iff : isLineEnd c = true ↔ c = '\n' ∨ c = '\u2028' ∨ c = '\u2029' := by
  have hchar (n : Nat) (d : Char) (hd : d.toNat = n) : c.toNat = n ↔ c = d := by
    rw [← hd]
    exact ⟨fun h => Char.toNat_inj.mp h, fun h => by rw [h]⟩
  simp only [isLineEnd, Bool.or_eq_true, beq_iff_eq, or_assoc]
  rw [hchar 0x2028 '\u2028' (by decide), hchar 0x2029 '\u2029' (by decide)]

/-- A class of characters that leaves out the three line ends. -/
theorem not_isLineEnd_of {p : Char → Bool}
    (hp : p '\n' = false ∧ p '\u2028' = false ∧ p '\u2029' = false) (h : p c = true) :
    isLineEnd c = false := by
  rw [Bool.eq_false_iff]
  intro hc
  rcases isLineEnd_iff.mp hc with rfl | rfl | rfl
  · simp [hp.1] at h
  · simp [hp.2.1] at h
  · simp [hp.2.2] at h

theorem BeginsDocument.atDocumentMark (h : BeginsDocument doc) : atDocumentMark doc = true := by
  obtain ⟨t, rfl, ht⟩ := h
  rw [Yaml.atDocumentMark, Text.after?_append]
  exact ht

theorem BeginsDocument.head_eq (h : BeginsDocument (c :: s)) : c = '-' := by
  obtain ⟨t, ht, -⟩ := h
  exact (List.cons.inj ht).1

theorem BeginsDocument.ne_nil (h : BeginsDocument doc) : doc ≠ [] := by
  rintro rfl
  obtain ⟨t, ht, -⟩ := h
  contradiction

theorem not_later_nil : ¬Later doc [] := by
  rintro ⟨a, e, -, h⟩
  exact absurd h.symm (by simp)

theorem later_cons_iff : Later doc (c :: s) ↔ isLineEnd c = true ∧ s = doc ∨ Later doc s := by
  constructor
  · rintro ⟨a, e, he, h⟩
    cases a with
    | nil =>
      obtain ⟨rfl, rfl⟩ := List.cons.inj h
      exact .inl ⟨he, rfl⟩
    | cons d a =>
      obtain ⟨rfl, rfl⟩ := List.cons.inj h
      exact .inr ⟨a, e, he, rfl⟩
  · rintro (⟨hc, rfl⟩ | ⟨a, e, he, rfl⟩)
    · exact ⟨[], c, hc, rfl⟩
    · exact ⟨c :: a, e, he, rfl⟩

theorem Later.cons (h : Later doc s) (c : Char) : Later doc (c :: s) := later_cons_iff.mpr (.inr h)

theorem Later.ahead (h : Later doc s) (m : Mark) : Ahead doc m s := .inl h

theorem Later.tail (h : Later doc (c :: s)) (hc : isLineEnd c = false) : Later doc s := by
  rcases later_cons_iff.mp h with ⟨hc', -⟩ | h
  · rw [hc] at hc'
    contradiction
  · exact h

theorem Later.of_append (h : Later doc (t ++ s)) (ht : ∀ c ∈ t, isLineEnd c = false) : Later doc s := by
  induction t with
  | nil => exact h
  | cons c t ih =>
    exact ih (h.tail (ht c List.mem_cons_self)) fun d hd => ht d (List.mem_cons_of_mem c hd)

/-- Characters that end no line can be skipped. -/
theorem Later.dropWhile {p : Char → Bool} (h : Later doc s)
    (hp : ∀ c, p c = true → isLineEnd c = false) : Later doc (s.dropWhile p) := by
  rw [← List.takeWhile_append_dropWhile (p := p) (l := s)] at h
  exact h.of_append fun c hc => hp c (List.mem_takeWhile_imp hc)

theorem Later.blanks (h : Later doc s) : Later doc (s.dropWhile isSpaceOrTab) :=
  h.dropWhile fun _ hc => not_isLineEnd_of (by decide) hc

theorem Later.afterComment (h : Later doc s) : Later doc (afterComment s) := by
  unfold Yaml.afterComment
  split
  · exact h.dropWhile fun c hc => by simpa using hc
  · exact h

namespace Ahead

variable (h : Ahead doc m (c :: s))

include h

/-- Behind a character of a line, the document begins on a later line. -/
theorem later (hc : isLineEnd c = false) (hhere : c :: s = doc → m.column ≠ 0) : Later doc s := by
  rcases h with h | ⟨heq, hcolumn⟩
  · exact h.tail hc
  · exact absurd hcolumn (hhere heq)

theorem newLine (hdoc : BeginsDocument doc) (hc : isLineEnd c = true) : Ahead doc m.newLine s := by
  rcases h with h | ⟨rfl, -⟩
  · rcases later_cons_iff.mp h with ⟨-, heq⟩ | h
    · exact .inr ⟨heq, rfl⟩
    · exact .inl h
  · rw [hdoc.head_eq] at hc
    exact absurd hc (by decide)

end Ahead

theorem Ahead.ne_nil (hdoc : BeginsDocument doc) (h : Ahead doc m s) : s ≠ [] := by
  rintro rfl
  rcases h with h | ⟨heq, -⟩
  · exact not_later_nil h
  · exact hdoc.ne_nil heq.symm

section Here

variable (hdoc : BeginsDocument doc)

include hdoc

theorem column_ne_of_ne_dash (hc : c ≠ '-') : c :: s = doc → m.column ≠ 0 := by
  rintro rfl
  exact absurd hdoc.head_eq hc

theorem column_ne_of_not_mark (h : ¬(decide (m.column = 0) && atDocumentMark (c :: s)) = true) :
    c :: s = doc → m.column ≠ 0 := by
  rintro rfl hcolumn
  simp [hcolumn, hdoc.atDocumentMark] at h

theorem Ahead.later_of_blank (h : Ahead doc m (c :: s)) (hc : isSpaceOrTab c = true) : Later doc s := by
  refine h.later ?_ (column_ne_of_ne_dash hdoc ?_)
  · rcases Bool.or_eq_true_iff.mp hc with hc | hc <;> rw [eq_of_beq hc] <;> decide
  · rintro rfl
    exact absurd hc (by decide)

end Here

/-! ### Scalars -/

/-- A fold that may fail has a result only if each of its steps has one. -/
theorem exists_step_of_foldl {α β : Type} {f : β → α → Option β} {as : List α} {k : Option β} {b : β}
    (h : as.foldl (fun k a => k.bind fun n => f n a) k = some b) :
    k.isSome = true ∧ ∀ a ∈ as, ∃ n i, f n a = some i := by
  induction as generalizing k with
  | nil =>
    rw [List.foldl_nil] at h
    exact ⟨by rw [h]; rfl, fun _ ha => absurd ha List.not_mem_nil⟩
  | cons a as ih =>
    obtain ⟨hk, hsteps⟩ := ih h
    obtain ⟨i, hi⟩ := Option.isSome_iff_exists.mp hk
    obtain ⟨n, rfl, hn⟩ := Option.bind_eq_some_iff.mp hi
    exact ⟨rfl, List.forall_mem_cons.mpr ⟨⟨n, i, hn⟩, hsteps⟩⟩

theorem isSome_digitValue?_of_inBase? {base n : Nat} {digits : Text}
    (h : Text.inBase? base digits = some n) : ∀ c ∈ digits, (Text.digitValue? c).isSome = true := by
  unfold Text.inBase? at h
  split_ifs at h
  intro c hc
  obtain ⟨k, i, hstep⟩ := (exists_step_of_foldl h).2 c hc
  cases hd : Text.digitValue? c with
  | none => simp [hd] at hstep
  | some d => rfl

theorem not_isLineEnd_of_inBase? {base n : Nat} {digits : Text}
    (h : Text.inBase? base digits = some n) : ∀ c ∈ digits, isLineEnd c = false := fun c hc =>
  not_isLineEnd_of (p := fun c => (Text.digitValue? c).isSome) (by decide)
    (isSome_digitValue?_of_inBase? h c hc)

theorem later_depth? {n : Nat} (h : blockHeader?.depth? s = some (n, rest))
    (hs : Later doc s) : Later doc rest := by
  cases s with
  | nil => exact absurd hs not_later_nil
  | cons c s =>
    rw [blockHeader?.depth?] at h
    split_ifs at h with _ hdigit
    · obtain ⟨-, rfl⟩ := by simpa using h
      exact hs.tail (not_isLineEnd_of (p := Char.isDigit) (by decide) hdigit)
    · obtain ⟨-, rfl⟩ := by simpa using h
      exact hs

theorem later_blockHeader? {ch : Chomping} {n : Nat}
    (h : blockHeader? s = some (ch, n, rest)) (hs : Later doc s) : Later doc rest := by
  unfold blockHeader? at h
  split at h
  · obtain ⟨⟨k, r⟩, hdepth, heq⟩ := Option.map_eq_some_iff.mp h
    obtain ⟨-, -, rfl⟩ := by simpa using heq
    exact later_depth? hdepth (hs.tail (by decide))
  · obtain ⟨⟨k, r⟩, hdepth, heq⟩ := Option.map_eq_some_iff.mp h
    obtain ⟨-, -, rfl⟩ := by simpa using heq
    exact later_depth? hdepth (hs.tail (by decide))
  · obtain ⟨⟨k, r⟩, hdepth, heq⟩ := Option.map_eq_some_iff.mp h
    have hr := later_depth? hdepth hs
    dsimp only at heq
    split at heq
    all_goals try split_ifs at heq
    all_goals obtain ⟨-, -, rfl⟩ := by simpa using heq
    · exact hr
    · exact hr.tail (by decide)
    · exact hr
    · exact hr.tail (by decide)
    · exact hr

section Scalar

variable (hdoc : BeginsDocument doc)

include hdoc

theorem ahead_singleQuoted? {done : Text} {g : Gap} {r : Reading}
    (h : singleQuoted? done g m s = some r) (hs : Ahead doc m s) : Ahead doc r.mark r.rest := by
  fun_induction singleQuoted? done g m s with
  | case1 => contradiction
  | case2 done g m c s hblank ih => exact ih h ((hs.later_of_blank hdoc hblank).ahead _)
  | case3 done g m c s hblank hline ih => exact ih h (hs.newLine hdoc hline)
  | case4 => contradiction
  | case5 done g m done' s hblank hline hmark ih =>
    have hlater := hs.later (by simpa using hline) (column_ne_of_not_mark hdoc hmark)
    exact ih h ((hlater.tail (by decide)).ahead _)
  | case6 done g m s done' hs' hblank hline hmark =>
    obtain rfl := Option.some.inj h
    exact (hs.later (by simpa using hline) (column_ne_of_not_mark hdoc hmark)).ahead _
  | case7 done g m c s hblank hline hmark done' hquote ih =>
    exact ih h ((hs.later (by simpa using hline) (column_ne_of_not_mark hdoc hmark)).ahead _)

/-- The digits of a numbered escape end no line. -/
theorem ahead_of_codePoint? {digits : Text} {u d : Char} (hu : isLineEnd u = false)
    (hd : codePoint? digits = some d) (hs : Ahead doc m ('\\' :: u :: (digits ++ s))) :
    Ahead doc m' s := by
  obtain ⟨n, hn, -⟩ := Option.bind_eq_some_iff.mp hd
  have hlater := hs.later (by decide) (column_ne_of_ne_dash hdoc (by decide))
  exact ((hlater.tail hu).of_append (not_isLineEnd_of_inBase? hn)).ahead m'

theorem ahead_doubleQuoted? {done : Text} {g : Gap} {r : Reading}
    (h : doubleQuoted? done g m s = some r) (hs : Ahead doc m s) : Ahead doc r.mark r.rest := by
  fun_induction doubleQuoted? done g m s with
  | case1 => contradiction
  | case2 done g m a b s ih =>
    obtain ⟨d, hd, h⟩ := Option.bind_eq_some_iff.mp h
    exact ih d h (ahead_of_codePoint? hdoc (u := 'x') (by decide) hd hs)
  | case3 done g m a b c d s ih =>
    obtain ⟨d', hd, h⟩ := Option.bind_eq_some_iff.mp h
    exact ih d' h (ahead_of_codePoint? hdoc (u := 'u') (by decide) hd hs)
  | case4 done g m a b c d e f i j s ih =>
    obtain ⟨d', hd, h⟩ := Option.bind_eq_some_iff.mp h
    exact ih d' h (ahead_of_codePoint? hdoc (u := 'U') (by decide) hd hs)
  | case5 done g m c s _ _ _ hline ih =>
    have hlater := hs.later (by decide) (column_ne_of_ne_dash hdoc (by decide))
    exact ih h ((hlater.ahead m).newLine hdoc hline)
  | case6 done g m c s _ _ _ hline ih =>
    obtain ⟨d, -, h⟩ := Option.bind_eq_some_iff.mp h
    have hlater := hs.later (by decide) (column_ne_of_ne_dash hdoc (by decide))
    exact ih d h ((hlater.tail (by simpa using hline)).ahead _)
  | case7 done g m c s _ _ _ _ hblank ih => exact ih h ((hs.later_of_blank hdoc hblank).ahead _)
  | case8 done g m c s _ _ _ _ hblank hline ih => exact ih h (hs.newLine hdoc hline)
  | case9 => contradiction
  | case10 done g m s _ _ _ _ hblank hline hmark =>
    obtain rfl := Option.some.inj h
    exact (hs.later (by decide) (column_ne_of_not_mark hdoc hmark)).ahead _
  | case11 done g m c s _ _ _ _ hblank hline hmark hquote ih =>
    exact ih h ((hs.later (by simpa using hline) (column_ne_of_not_mark hdoc hmark)).ahead _)

theorem ahead_plain? {flow : Bool} {indent : Int} {done : Text} {g : Gap} {r : Reading}
    (h : plain? flow indent done g m s = some r) (hs : Ahead doc m s) : Ahead doc r.mark r.rest := by
  fun_induction plain? flow indent done g m s with
  | case1 => exact absurd rfl (hs.ne_nil hdoc)
  | case2 => contradiction
  | case3 done g m c s hblank _ ih => exact ih h ((hs.later_of_blank hdoc hblank).ahead _)
  | case4 done g m c s hblank hline ih => exact ih h (hs.newLine hdoc hline)
  | case5 =>
    obtain rfl := Option.some.inj h
    exact hs
  | case6 =>
    obtain rfl := Option.some.inj h
    exact hs
  | case7 =>
    obtain rfl := Option.some.inj h
    exact hs
  | case8 => contradiction
  | case9 =>
    obtain rfl := Option.some.inj h
    exact hs
  | case10 done g m c s hblank hline _ hmark _ _ _ ih =>
    exact ih h ((hs.later (by simpa using hline) (column_ne_of_not_mark hdoc hmark)).ahead _)

theorem ahead_blockGap? {parent : Int} {indent deepest n : Nat} {breaks more : Text}
    (h : blockGap? parent indent deepest breaks m s = some (n, more, m', rest)) (hs : Ahead doc m s) :
    Ahead doc m' rest ∧ n ≠ 0 := by
  have hsettled : ∀ deepest, blockGap?.settled parent indent deepest ≠ 0 := by
    intro deepest
    unfold blockGap?.settled
    split_ifs with hzero
    · omega
    · exact hzero
  fun_induction blockGap? parent indent deepest breaks m s with
  | case1 deepest breaks m c s free hspace ih =>
    have hc : c = ' ' := by
      rw [Bool.and_eq_true, beq_iff_eq] at hspace
      exact hspace.2
    subst hc
    exact ih h ((hs.later_of_blank hdoc rfl).ahead _)
  | case2 => contradiction
  | case3 deepest breaks m c s free _ deepest' _ hline ih => exact ih h (hs.newLine hdoc hline)
  | case4 =>
    obtain ⟨rfl, -, rfl, rfl⟩ := by simpa using h
    exact ⟨hs, hsettled _⟩
  | case5 => exact absurd rfl (hs.ne_nil hdoc)

theorem ahead_blockLines? {literal : Bool} {parent : Int} {indent : Nat} {b b' : BlockText}
    (hindent : indent ≠ 0) (h : blockLines? literal parent indent b m s = some (b', m', rest))
    (hs : Ahead doc m s) : Ahead doc m' rest := by
  fun_induction blockLines? literal parent indent b m s with
  | case1 => exact absurd rfl (hs.ne_nil hdoc)
  | case2 =>
    obtain ⟨-, rfl, rfl⟩ := by simpa using h
    exact hs
  | case3 => contradiction
  | case4 b m c s hcolumn content m₁ last m₂ rest hline n more m₃ rest' hgap hlt ih =>
    have hcolumn' : m.column ≠ 0 := by
      rw [bne_iff_ne, not_not] at hcolumn
      rwa [hcolumn]
    have hlater : Later doc (c :: s) := by
      rcases hs with hs | ⟨-, hzero⟩
      · exact hs
      · exact absurd hzero hcolumn'
    have hrest := hlater.dropWhile (p := fun c => !isLineEnd c) fun c hc => by simpa using hc
    have hnext : Ahead doc m₂ rest := by
      split at hline
      · next e r hdrop =>
        obtain ⟨-, rfl, rfl⟩ := by simpa using hline
        rw [hdrop] at hrest
        have he : isLineEnd e = true := by
          have hhead := List.head?_dropWhile_not (fun c => !isLineEnd c) (c :: s)
          rw [hdrop] at hhead
          simpa using hhead
        exact (hrest.ahead m₁).newLine hdoc he
      · next hdrop =>
        rw [hdrop] at hrest
        exact absurd hrest not_later_nil
    exact ih h (ahead_blockGap? hdoc hgap hnext).1
  | case5 => contradiction

theorem ahead_block? {literal : Bool} {parent : Int} {r : Reading}
    (h : block? literal parent m s = some r) (hs : Later doc s) : Ahead doc r.mark r.rest := by
  unfold block? at h
  obtain ⟨⟨ch, depth, r₁⟩, hheader, h⟩ := Option.bind_eq_some_iff.mp h
  have hcomment := (later_blockHeader? hheader hs).blanks.afterComment
  dsimp only at h
  cases hline : afterComment (r₁.dropWhile isSpaceOrTab) with
  | nil =>
    rw [hline] at hcomment
    exact absurd hcomment not_later_nil
  | cons c t =>
    rw [hline] at h hcomment
    dsimp only at h
    cases hc : isLineEnd c with
    | false =>
      rw [hc] at h
      contradiction
    | true =>
      rw [hc, if_pos rfl, Option.bind_eq_bind, Option.bind_some] at h
      obtain ⟨⟨indent, more, m₁, r₂⟩, hgap, h⟩ := Option.bind_eq_some_iff.mp h
      obtain ⟨⟨b, m₂, r₃⟩, hlines, h⟩ := Option.bind_eq_some_iff.mp h
      obtain rfl := Option.some.inj h
      obtain ⟨hahead, hindent⟩ := ahead_blockGap? hdoc hgap ((hcomment.ahead _).newLine hdoc hc)
      exact ahead_blockLines? hdoc hindent hlines hahead

end Scalar

/-! ### Properties and directives -/

theorem Later.word (h : Later doc s) : Later doc (s.dropWhile isWordChar) :=
  h.dropWhile fun _ hc => not_isLineEnd_of (by decide) hc

theorem later_anchorName? {name : Text} (h : anchorName? s = some (name, rest)) (hs : Later doc s) :
    Later doc rest := by
  unfold anchorName? at h
  dsimp only at h
  split_ifs at h
  obtain ⟨-, rfl⟩ := Prod.mk.inj (Option.some.inj h)
  exact hs.word

theorem later_percentByte? {n : Nat} (h : percentByte? s = some (n, rest)) (hs : Later doc s) :
    Later doc rest := by
  unfold percentByte? at h
  split at h
  · next a b s =>
    obtain ⟨k, hk, heq⟩ := Option.map_eq_some_iff.mp h
    obtain ⟨-, rfl⟩ := Prod.mk.inj heq
    exact (hs.tail (by decide)).of_append (t := [a, b]) (not_isLineEnd_of_inBase? hk)
  · contradiction

theorem later_continued? {n : Nat} {bs : Bytes} (h : continued? n s = some (bs, rest))
    (hs : Later doc s) : Later doc rest := by
  induction n generalizing s bs with
  | zero =>
    obtain ⟨-, rfl⟩ := Prod.mk.inj (Option.some.inj h)
    exact hs
  | succ n ih =>
    unfold continued? at h
    split at h
    · contradiction
    · next b r hbyte =>
      split_ifs at h
      obtain ⟨⟨cs, r'⟩, hmore, heq⟩ := Option.map_eq_some_iff.mp h
      obtain ⟨-, rfl⟩ := Prod.mk.inj heq
      exact ih hmore (later_percentByte? hbyte hs)

theorem later_percentBytes? {bs : Bytes} (h : percentBytes? s = some (bs, rest)) (hs : Later doc s) :
    Later doc rest := by
  unfold percentBytes? at h
  split at h
  · contradiction
  · next b r hbyte =>
    obtain ⟨n, -, h⟩ := Option.bind_eq_some_iff.mp h
    obtain ⟨⟨cs, r'⟩, hmore, heq⟩ := Option.map_eq_some_iff.mp h
    obtain ⟨-, rfl⟩ := Prod.mk.inj heq
    exact later_continued? hmore (later_percentByte? hbyte hs)

theorem not_isLineEnd_of_isTagChar {verbatim : Bool} (h : isTagChar verbatim c = true) :
    isLineEnd c = false := by
  cases verbatim with
  | false => exact not_isLineEnd_of (p := isTagChar false) (by decide) h
  | true => exact not_isLineEnd_of (p := isTagChar true) (by decide) h

theorem later_tagBytes? {verbatim : Bool} {bs : Bytes} (h : tagBytes? verbatim s = some (bs, rest))
    (hs : Later doc s) : Later doc rest := by
  fun_induction tagBytes? verbatim s generalizing bs with
  | case1 => exact absurd hs not_later_nil
  | case2 =>
    obtain ⟨-, rfl⟩ := Prod.mk.inj (Option.some.inj h)
    exact hs
  | case3 c r htag _ ih =>
    obtain ⟨⟨cs, r'⟩, hmore, heq⟩ := Option.map_eq_some_iff.mp h
    obtain ⟨-, rfl⟩ := Prod.mk.inj heq
    exact ih hmore (hs.tail (not_isLineEnd_of_isTagChar (by simpa using htag)))
  | case4 => contradiction
  | case5 c r htag _ cs rest' hbytes hle ih =>
    obtain ⟨⟨ds, r'⟩, hmore, heq⟩ := Option.map_eq_some_iff.mp h
    obtain ⟨-, rfl⟩ := Prod.mk.inj heq
    exact ih hmore (later_percentBytes? hbytes hs)
  | case6 => contradiction

theorem later_handle? {name : Text} (h : handle? s = some (name, rest)) (hs : Later doc s) :
    Later doc rest := by
  unfold handle? at h
  split at h
  · next s =>
    have hword := (hs.tail (by decide)).word
    dsimp only at h
    split at h
    · next r heq =>
      obtain ⟨-, rfl⟩ := Prod.mk.inj (Option.some.inj h)
      rw [heq] at hword
      exact hword.tail (by decide)
    · obtain ⟨-, rfl⟩ := Prod.mk.inj (Option.some.inj h)
      exact hword
  · contradiction

theorem later_verbatimTag? {tok : Token} (h : verbatimTag? s = some (tok, rest)) (hs : Later doc s) :
    Later doc rest := by
  unfold verbatimTag? at h
  split at h
  · next b bs rest hbytes =>
    obtain ⟨-, rfl⟩ := Prod.mk.inj (Option.some.inj h)
    exact (later_tagBytes? hbytes hs).tail (by decide)
  · contradiction

theorem later_handledTag? {tok : Token} (h : handledTag? s = some (tok, rest)) (hs : Later doc s) :
    Later doc rest := by
  unfold handledTag? at h
  split at h
  · contradiction
  · next name r hhandle =>
    have hr := later_handle? hhandle (hs.cons '!')
    split at h
    · contradiction
    · next bs rest hbytes =>
      have hrest := later_tagBytes? hbytes hr
      split_ifs at h
      · obtain ⟨-, rfl⟩ := Prod.mk.inj (Option.some.inj h)
        exact hrest
      · obtain ⟨-, rfl⟩ := Prod.mk.inj (Option.some.inj h)
        exact hrest

theorem later_tag? {flow : Bool} {tok : Token} (h : tag? flow s = some (tok, rest)) (hs : Later doc s) :
    Later doc rest := by
  obtain ⟨hread, -⟩ := Option.filter_eq_some_iff.mp h
  split at hread
  · exact later_verbatimTag? hread (hs.tail (by decide))
  · exact later_handledTag? hread hs

theorem later_versionNumber? {n : Nat} (h : versionNumber? s = some (n, rest)) (hs : Later doc s) :
    Later doc rest := by
  unfold versionNumber? at h
  dsimp only at h
  split_ifs at h
  obtain ⟨-, rfl⟩ := Prod.mk.inj (Option.some.inj h)
  exact hs.dropWhile fun _ hc => not_isLineEnd_of (by decide) hc

theorem later_version? {tok : Token} (h : version? s = some (tok, rest)) (hs : Later doc s) :
    Later doc rest := by
  unfold version? at h
  split at h
  · next major r hmajor =>
    obtain ⟨⟨minor, r'⟩, hminor, heq⟩ := Option.map_eq_some_iff.mp h
    obtain ⟨-, rfl⟩ := Prod.mk.inj heq
    exact later_versionNumber? hminor ((later_versionNumber? hmajor hs).tail (by decide))
  · contradiction

theorem later_tagHandle? {tok : Token} (h : tagHandle? s = some (tok, rest)) (hs : Later doc s) :
    Later doc rest := by
  unfold tagHandle? at h
  split at h
  · contradiction
  · next name r hhandle =>
    have hr := (later_handle? hhandle hs).blanks
    split_ifs at h
    split at h
    · contradiction
    · next lead rest hbytes =>
      split_ifs at h
      obtain ⟨-, rfl⟩ := Prod.mk.inj (Option.some.inj h)
      exact later_tagBytes? hbytes hr

theorem later_directive? {tok : Token} (h : directive? s = some (tok, rest)) (hs : Later doc s) :
    Later doc rest ∧ atLineEnd rest = true := by
  have hparameters := hs.word.blanks
  unfold directive? at h
  dsimp only at h
  split at h
  · contradiction
  · next tok' r hread =>
    have hr : Later doc r := by
      split_ifs at hread
      · exact later_version? hread hparameters
      · exact later_tagHandle? hread hparameters
    split_ifs at h with hend
    obtain ⟨-, rfl⟩ := Prod.mk.inj (Option.some.inj h)
    exact ⟨hr.blanks.afterComment, hend⟩

end NoteVault.Yaml
