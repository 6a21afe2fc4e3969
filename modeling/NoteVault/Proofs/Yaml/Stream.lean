import Mathlib.Data.List.Basic
import NoteVault.Proofs.Yaml.Ahead
import NoteVault.Yaml.Print
import NoteVault.Yaml.Token.Stream

/-!
The tokens of a text in which a document begins on a later line. What stands in front of it may be
anything: if there are tokens at all, the beginning of the document is among them.
-/

namespace NoteVault.Yaml

/-- Whether a token is neither a directive nor the beginning of a document. -/
def Token.isContent : Token → Bool
  | .version _ _ | .tagHandle _ _ | .documentStart => false
  | _ => true

/-- Whether a character is neither skipped in front of a token nor the mark of a directive. -/
def isContentHead (c : Char) : Bool :=
  !(isSpaceOrTab c || isLineEnd c || isByteOrderMark c || c == '#' || c == '%')

/-- Whether tokens, the last one first, hold others and begin with content if these do. -/
structure Longer (ts us : List Token) : Prop where
  subset : ts ⊆ us
  opens : (∀ t ∈ ts.getLast?, t.isContent = true) → ∀ t ∈ us.getLast?, t.isContent = true

namespace Longer

variable {ts us vs : List Token} {t : Token}

theorem refl (ts : List Token) : Longer ts ts := ⟨fun _ h => h, fun h => h⟩

theorem trans (h : Longer ts us) (h' : Longer us vs) : Longer ts vs :=
  ⟨fun _ ht => h'.subset (h.subset ht), fun ht => h'.opens (h.opens ht)⟩

theorem ne_nil (h : Longer ts us) (hts : ts ≠ []) : us ≠ [] := by
  rintro rfl
  exact hts (List.subset_nil.mp h.subset)

theorem cons_of_ne_nil (hts : ts ≠ []) (t : Token) : Longer ts (t :: ts) := by
  refine ⟨List.subset_cons_self t ts, fun h => ?_⟩
  rwa [List.getLast?_cons_of_ne_nil hts]

theorem cons (ts : List Token) (ht : t.isContent = true) : Longer ts (t :: ts) := by
  cases ts with
  | nil =>
    refine ⟨List.nil_subset _, fun _ u hu => ?_⟩
    obtain rfl := List.mem_singleton.mp (List.mem_of_mem_getLast? hu)
    exact ht
  | cons u us => exact cons_of_ne_nil (List.cons_ne_nil u us) t

theorem insert (ts : List Token) (n : Nat) (ht : t.isContent = true) :
    Longer ts (ts.take n ++ t :: ts.drop n) := by
  have hdrop := cons (ts.drop n) ht
  refine ⟨fun u hu => ?_, fun h u hu => ?_⟩
  · rw [← List.take_append_drop n ts] at hu
    rw [List.mem_append] at hu ⊢
    exact hu.imp_right fun hu => hdrop.subset hu
  · rw [List.getLast?_append_cons] at hu
    refine hdrop.opens (fun v hv => h v ?_) u hu
    rw [← List.take_append_drop n ts, List.getLast?_append, hv]
    rfl

end Longer

namespace TokenReader

variable {p q r : TokenReader} {t : Token} {c : Char} {s : Text}

/-- Whether a reader stands where another one stands and has its tokens and perhaps more. -/
structure Still (p q : TokenReader) : Prop where
  rest : q.rest = p.rest
  mark : q.mark = p.mark
  longer : Longer p.tokens q.tokens

theorem Still.refl (p : TokenReader) : Still p p := ⟨rfl, rfl, .refl _⟩

theorem Still.trans (h : Still p q) (h' : Still q r) : Still p r :=
  ⟨h'.rest.trans h.rest, h'.mark.trans h.mark, h.longer.trans h'.longer⟩

theorem still_dropStaleSpots? (h : p.dropStaleSpots? = some q) : Still p q := by
  unfold dropStaleSpots? at h
  dsimp only at h
  split_ifs at h
  obtain rfl := Option.some.inj h
  exact ⟨rfl, rfl, .refl _⟩

theorem still_dropSpot? (h : p.dropSpot? = some q) : Still p q := by
  unfold dropSpot? at h
  split at h
  · split_ifs at h
    obtain rfl := Option.some.inj h
    exact ⟨rfl, rfl, .refl _⟩
  · obtain rfl := Option.some.inj h
    exact .refl _

theorem still_saveSpot? (h : p.saveSpot? = some q) : Still p q := by
  unfold saveSpot? at h
  split_ifs at h
  · obtain rfl := Option.some.inj h
    exact .refl _
  · obtain ⟨r, hr, rfl⟩ := Option.map_eq_some_iff.mp h
    exact (still_dropSpot? hr).trans ⟨rfl, rfl, .refl _⟩

theorem still_insertAt (p : TokenReader) (n : Nat) (ht : t.isContent = true) :
    Still p (p.insertAt n t) :=
  ⟨rfl, rfl, .insert p.tokens _ ht⟩

theorem still_openBlock (p : TokenReader) (column n : Nat) (ht : t.isContent = true) :
    Still p (p.openBlock column n t) := by
  unfold openBlock
  split_ifs
  · exact (p.still_insertAt n ht).trans ⟨rfl, rfl, .refl _⟩
  · exact .refl _

theorem still_closeBlocks (p : TokenReader) (column : Int) : Still p (p.closeBlocks column) := by
  have hgo : ∀ (is : List Int) (p : TokenReader), Still p (closeBlocks.go column is p) := by
    intro is
    induction is with
    | nil => exact Still.refl
    | cons i is ih =>
      intro p
      unfold closeBlocks.go
      split_ifs
      · have hpush : Still p { p.push .blockEnd with indent := i, indents := is } :=
          ⟨rfl, rfl, .cons p.tokens rfl⟩
        exact hpush.trans (ih _)
      · exact .refl _
  unfold closeBlocks
  split_ifs
  · exact .refl _
  · exact hgo _ _

theorem still_endBlocks? (h : p.endBlocks? = some q) : Still p q := by
  obtain ⟨r, hr, rfl⟩ := Option.map_eq_some_iff.mp h
  exact ((p.still_closeBlocks (-1)).trans (still_dropSpot? hr)).trans ⟨rfl, rfl, .refl _⟩

/-- Whether a reader has read content that begins with the character at which another one stands. -/
structure Reads (p q : TokenReader) : Prop where
  longer : Longer p.tokens q.tokens
  ne_nil : q.tokens ≠ []
  ahead : ∀ doc, BeginsDocument doc → Later doc (p.rest.drop 1) → Ahead doc q.mark q.rest

theorem Still.reads (h : Still p r) (ht : t.isContent = true) (htokens : q.tokens = t :: r.tokens)
    (hrest : q.rest = r.rest.drop 1) : Reads p q where
  longer := htokens ▸ h.longer.trans (.cons r.tokens ht)
  ne_nil := htokens ▸ List.cons_ne_nil t r.tokens
  ahead doc _ hlater := by
    rw [hrest, h.rest]
    exact hlater.ahead _

theorem reads_openFlow? (ht : t.isContent = true) (h : p.openFlow? t = some q) : Reads p q := by
  obtain ⟨r, hr, rfl⟩ := Option.map_eq_some_iff.mp h
  exact (still_saveSpot? hr).reads ht rfl rfl

theorem reads_closeFlow? (ht : t.isContent = true) (h : p.closeFlow? t = some q) : Reads p q := by
  obtain ⟨r, hr, rfl⟩ := Option.map_eq_some_iff.mp h
  exact (still_dropSpot? hr).reads ht rfl rfl

theorem reads_readFlowEntry? (h : p.readFlowEntry? = some q) : Reads p q := by
  obtain ⟨r, hr, rfl⟩ := Option.map_eq_some_iff.mp h
  exact (still_dropSpot? hr).reads (t := .flowEntry) rfl rfl rfl

theorem reads_readBlockEntry? (h : p.readBlockEntry? = some q) : Reads p q := by
  unfold readBlockEntry? at h
  split_ifs at h
  obtain ⟨r, hr, rfl⟩ := Option.map_eq_some_iff.mp h
  exact ((p.still_openBlock _ _ rfl).trans (still_dropSpot? hr)).reads (t := .blockEntry) rfl rfl rfl

theorem reads_readKey? (h : p.readKey? = some q) : Reads p q := by
  unfold readKey? at h
  split_ifs at h
  obtain ⟨r, hr, rfl⟩ := Option.map_eq_some_iff.mp h
  exact ((p.still_openBlock _ _ rfl).trans (still_dropSpot? hr)).reads (t := .key) rfl rfl rfl

theorem reads_readValue? (h : p.readValue? = some q) : Reads p q := by
  unfold readValue? at h
  split at h
  · next k ks _ =>
    obtain rfl := Option.some.inj h
    have hkey := (p.still_insertAt k.number (t := .key) rfl).trans
      ((p.insertAt k.number .key).still_openBlock k.mark.column k.number (t := .blockMapping) rfl)
    exact hkey.reads (t := .value) rfl rfl rfl
  · split_ifs at h
    obtain rfl := Option.some.inj h
    exact (p.still_openBlock _ _ (t := .blockMapping) rfl).reads (t := .value) rfl rfl rfl

theorem isContent_of_tag? {flow : Bool} {rest : Text} (h : tag? flow s = some (t, rest)) :
    t.isContent = true := by
  obtain ⟨hread, -⟩ := Option.filter_eq_some_iff.mp h
  split at hread
  · unfold verbatimTag? at hread
    split at hread
    · obtain ⟨rfl, -⟩ := Prod.mk.inj (Option.some.inj hread)
      rfl
    · contradiction
  · unfold handledTag? at hread
    split at hread
    · contradiction
    · split at hread
      · contradiction
      · split_ifs at hread
        · obtain ⟨rfl, -⟩ := Prod.mk.inj (Option.some.inj hread)
          rfl
        · obtain ⟨rfl, -⟩ := Prod.mk.inj (Option.some.inj hread)
          split_ifs <;> rfl

theorem reads_readWord? {read : TokenReader → Option (Token × TokenReader)}
    (h : p.readWord? read = some q)
    (hread : ∀ r t r', r.rest = p.rest → r.mark = p.mark → read r = some (t, r') →
      t.isContent = true ∧ r'.tokens = r.tokens ∧
        ∀ doc, BeginsDocument doc → Later doc (p.rest.drop 1) → Ahead doc r'.mark r'.rest) :
    Reads p q := by
  obtain ⟨r, hr, h⟩ := Option.bind_eq_some_iff.mp h
  obtain ⟨⟨t, r'⟩, hword, h⟩ := Option.bind_eq_some_iff.mp h
  obtain rfl := Option.some.inj h
  have hstill := still_saveSpot? hr
  obtain ⟨ht, htokens, hahead⟩ :=
    hread { r with keyAllowed := false } t r' hstill.rest hstill.mark hword
  refine ⟨?_, List.cons_ne_nil _ _, hahead⟩
  have hlonger : Longer p.tokens r'.tokens := by
    rw [htokens]
    exact hstill.longer
  exact hlonger.trans (.cons _ ht)

theorem reads_name {t : Text → Token} (hp : p.rest = c :: s) (ht : ∀ name, (t name).isContent = true)
    (h : p.readWord? (fun r => (anchorName? s).map fun (name, rest) => (t name, r.moveTo rest)) =
      some q) : Reads p q := by
  refine reads_readWord? h fun r tok r' _ _ hread => ?_
  obtain ⟨⟨name, rest⟩, hname, heq⟩ := Option.map_eq_some_iff.mp hread
  obtain ⟨rfl, rfl⟩ := Prod.mk.inj heq
  refine ⟨ht name, rfl, fun doc _ hlater => ?_⟩
  rw [hp] at hlater
  exact (later_anchorName? hname hlater).ahead _

theorem reads_tag {flow : Bool} (hp : p.rest = c :: s)
    (h : p.readWord? (fun r => (tag? flow s).map fun (t, rest) => (t, r.moveTo rest)) = some q) :
    Reads p q := by
  refine reads_readWord? h fun r tok r' _ _ hread => ?_
  obtain ⟨⟨tok', rest⟩, htag, heq⟩ := Option.map_eq_some_iff.mp hread
  obtain ⟨rfl, rfl⟩ := Prod.mk.inj heq
  refine ⟨isContent_of_tag? htag, rfl, fun doc _ hlater => ?_⟩
  rw [hp] at hlater
  exact (later_tag? htag hlater).ahead _

theorem readScalar?_eq_some {plain : Bool} {n : Nat} {go : Mark → Text → Option Reading}
    (h : readScalar? plain n go p = some (t, q)) :
    t.isContent = true ∧ q.tokens = p.tokens ∧
      ∃ x : Reading, go (p.mark.skip n) (p.rest.drop n) = some x ∧
        q.mark = x.mark ∧ q.rest = x.rest := by
  obtain ⟨x, hx, heq⟩ := Option.map_eq_some_iff.mp h
  obtain ⟨rfl, rfl⟩ := Prod.mk.inj heq
  exact ⟨rfl, rfl, x, hx, rfl, rfl⟩

theorem reads_quoted {go : Mark → Text → Option Reading}
    (hgo : ∀ {doc m s x}, BeginsDocument doc → go m s = some x → Ahead doc m s →
      Ahead doc x.mark x.rest)
    (h : p.readWord? (readScalar? false 1 go) = some q) : Reads p q := by
  refine reads_readWord? h fun r t r' hrest _ hread => ?_
  obtain ⟨ht, htokens, x, hx, hmark', hrest'⟩ := readScalar?_eq_some hread
  refine ⟨ht, htokens, fun doc hdoc hlater => ?_⟩
  rw [hrest] at hx
  rw [hmark', hrest']
  exact hgo hdoc hx (hlater.ahead _)

theorem reads_readPlain? (hp : p.rest = c :: s) (h : p.readPlain? = some q) : Reads p q := by
  refine reads_readWord? h fun r t r' hrest _ hread => ?_
  obtain ⟨ht, htokens, x, hx, hmark', hrest'⟩ := readScalar?_eq_some hread
  refine ⟨ht, htokens, fun doc hdoc hlater => ?_⟩
  rw [hp] at hlater
  rw [List.drop_zero, hrest, hp] at hx
  rw [hmark', hrest']
  exact ahead_plain? hdoc hx ((hlater.cons c).ahead _)

theorem reads_readBlockScalar? {literal : Bool} (h : p.readBlockScalar? literal = some q) :
    Reads p q := by
  obtain ⟨r, hr, h⟩ := Option.bind_eq_some_iff.mp h
  obtain ⟨⟨t, r'⟩, hread, h⟩ := Option.bind_eq_some_iff.mp h
  obtain rfl := Option.some.inj h
  have hstill := still_dropSpot? hr
  obtain ⟨ht, htokens, x, hx, hmark', hrest'⟩ := readScalar?_eq_some hread
  refine ⟨?_, List.cons_ne_nil _ _, fun doc hdoc hlater => ?_⟩
  · have hlonger : Longer p.tokens r'.tokens := by
      rw [htokens]
      exact hstill.longer
    exact hlonger.trans (.cons _ ht)
  · have hrest : Later doc (r.rest.drop 1) := by
      rw [hstill.rest]
      exact hlater
    have hahead := ahead_block? hdoc hx hrest
    rw [← hmark', ← hrest'] at hahead
    exact hahead

theorem prefix_of_atDocumentMark (h : atDocumentMark s = true) :
    ("---" : Text) <+: s ∨ ("..." : Text) <+: s := by
  unfold atDocumentMark at h
  split at h
  · next hdashes => exact .inl ⟨_, (Text.eq_append_of_after? hdashes).symm⟩
  · next hdots => exact .inr ⟨_, (Text.eq_append_of_after? hdots).symm⟩
  · contradiction

theorem reads_documentEnd? (hp : p.rest = c :: s) (hmark : atDocumentMark (c :: s) = true)
    (hc : c ≠ '-') (h : p.endBlocks?.map (fun r =>
      (r.skip 3).push (if c == '-' then .documentStart else .documentEnd)) = some q) : Reads p q := by
  obtain ⟨r, hr, rfl⟩ := Option.map_eq_some_iff.mp h
  have hstill := still_endBlocks? hr
  rw [beq_eq_false_iff_ne.mpr hc]
  refine ⟨hstill.longer.trans (.cons _ rfl), List.cons_ne_nil _ _, fun doc _ hlater => ?_⟩
  obtain ⟨t, ht⟩ : ("..." : Text) <+: c :: s :=
    (prefix_of_atDocumentMark hmark).resolve_left fun h => hc (List.cons_prefix_cons.mp h).1.symm
  rw [hp, ← ht] at hlater
  have hrest : ((r.skip 3).push .documentEnd).rest = t := by
    rw [push, skip, hstill.rest, hp, ← ht]
    rfl
  have hdots : ∀ d ∈ (".." : Text), isLineEnd d = false := by
    intro d hd
    rw [List.eq_of_mem_replicate (n := 2) hd]
    decide
  exact hrest ▸ (hlater.of_append hdots).ahead _

/-- What is read is content, unless it is a directive or the mark at the beginning of a document. -/
theorem reads_of_read? (h : p.read? c s = some q) (hp : p.rest = c :: s)
    (hdirective : ¬(decide (p.mark.column = 0) && c == '%') = true)
    (hstart : (decide (p.mark.column = 0) && atDocumentMark (c :: s)) = true → c ≠ '-') :
    Reads p q := by
  unfold read? at h
  dsimp only at h
  rw [if_neg hdirective] at h
  rcases ite_eq_iff.mp h with ⟨hmark, h⟩ | ⟨-, h⟩
  · exact reads_documentEnd? hp (Bool.and_eq_true_iff.mp hmark).2 (hstart hmark) h
  rcases ite_eq_iff.mp h with ⟨-, h⟩ | ⟨-, h⟩
  · exact reads_openFlow? rfl h
  rcases ite_eq_iff.mp h with ⟨-, h⟩ | ⟨-, h⟩
  · exact reads_openFlow? rfl h
  rcases ite_eq_iff.mp h with ⟨-, h⟩ | ⟨-, h⟩
  · exact reads_closeFlow? rfl h
  rcases ite_eq_iff.mp h with ⟨-, h⟩ | ⟨-, h⟩
  · exact reads_closeFlow? rfl h
  rcases ite_eq_iff.mp h with ⟨-, h⟩ | ⟨-, h⟩
  · exact reads_readFlowEntry? h
  rcases ite_eq_iff.mp h with ⟨-, h⟩ | ⟨-, h⟩
  · exact reads_readBlockEntry? h
  rcases ite_eq_iff.mp h with ⟨-, h⟩ | ⟨-, h⟩
  · exact reads_readKey? h
  rcases ite_eq_iff.mp h with ⟨-, h⟩ | ⟨-, h⟩
  · exact reads_readValue? h
  rcases ite_eq_iff.mp h with ⟨-, h⟩ | ⟨-, h⟩
  · exact reads_name (t := Token.alias) hp (fun _ => rfl) h
  rcases ite_eq_iff.mp h with ⟨-, h⟩ | ⟨-, h⟩
  · exact reads_name (t := Token.anchor) hp (fun _ => rfl) h
  rcases ite_eq_iff.mp h with ⟨-, h⟩ | ⟨-, h⟩
  · exact reads_tag hp h
  rcases ite_eq_iff.mp h with ⟨-, h⟩ | ⟨-, h⟩
  · exact reads_readBlockScalar? h
  rcases ite_eq_iff.mp h with ⟨-, h⟩ | ⟨-, h⟩
  · exact reads_readBlockScalar? h
  rcases ite_eq_iff.mp h with ⟨-, h⟩ | ⟨-, h⟩
  · exact reads_quoted (fun hdoc => ahead_singleQuoted? hdoc) h
  rcases ite_eq_iff.mp h with ⟨-, h⟩ | ⟨-, h⟩
  · exact reads_quoted (fun hdoc => ahead_doubleQuoted? hdoc) h
  rcases ite_eq_iff.mp h with ⟨-, h⟩ | ⟨-, h⟩
  · contradiction
  · exact reads_readPlain? hp h

theorem still_prepared? (h : p.prepared? = some q) : Still p.toNextToken q := by
  obtain ⟨r, hr, rfl⟩ := Option.map_eq_some_iff.mp h
  exact (still_dropStaleSpots? hr).trans (r.still_closeBlocks _)

theorem longer_endStream? (h : p.endStream? = some q) : Longer p.tokens q.tokens :=
  (still_endBlocks? h).longer

/-- What follows blanks, comments and line ends is no line end. -/
theorem not_isLineEnd_of_skipBlanks {flow keyAllowed : Bool} {m : Mark} {t : Text}
    (h : (skipBlanks flow keyAllowed m t).2.2 = c :: s) : isLineEnd c = false := by
  have hskip : (∀ keyAllowed m, (skipBlanks flow keyAllowed m t).2.2 = c :: s → isLineEnd c = false) ∧
      ∀ keyAllowed m, (skipBlanks.skipComment flow keyAllowed m t).2.2 = c :: s →
        isLineEnd c = false := by
    clear h
    induction t with
    | nil => exact ⟨fun _ _ h => by contradiction, fun _ _ h => by contradiction⟩
    | cons d t ih =>
      obtain ⟨hblanks, hcomment⟩ := ih
      constructor
      · intro keyAllowed m h
        unfold skipBlanks at h
        split_ifs at h with _ hline
        · exact hblanks _ _ h
        · exact hblanks _ _ h
        · exact hcomment _ _ h
        · obtain ⟨rfl, -⟩ := List.cons.inj h
          simpa using hline
      · intro keyAllowed m h
        unfold skipBlanks.skipComment at h
        split_ifs at h
        · exact hblanks _ _ h
        · exact hcomment _ _ h
  exact hskip.1 keyAllowed m h

theorem tokens_moveToLine (r : TokenReader) (rest : Text) :
    (r.moveToLine rest).tokens = r.tokens := by
  unfold moveToLine
  split <;> rfl

theorem ahead_moveToLine {doc rest : Text} (hdoc : BeginsDocument doc) (hlater : Later doc rest)
    (hend : atLineEnd rest = true) (r : TokenReader) :
    Ahead doc (r.moveToLine rest).mark (r.moveToLine rest).rest := by
  cases rest with
  | nil => exact absurd hlater not_later_nil
  | cons e rest => exact (hlater.ahead r.mark).newLine hdoc hend

/-- Whether a reader has begun with content and has a document ahead of it or its beginning read. -/
structure Passes (doc : Text) (r : TokenReader) : Prop where
  ahead : Ahead doc r.mark r.rest ∨ .documentStart ∈ r.tokens
  ne_nil : r.tokens ≠ []
  opens : ∀ t ∈ r.tokens.getLast?, t.isContent = true

section Passes

variable {doc : Text} (hdoc : BeginsDocument doc)

theorem Passes.of_longer (h : Passes doc p) (hlonger : Longer p.tokens q.tokens)
    (hahead : Ahead doc p.mark p.rest → Ahead doc q.mark q.rest ∨ .documentStart ∈ q.tokens) :
    Passes doc q where
  ahead := h.ahead.elim hahead fun hstart => .inr (hlonger.subset hstart)
  ne_nil := hlonger.ne_nil h.ne_nil
  opens := hlonger.opens h.opens

theorem Passes.of_reads (h : Reads p q) (hdoc : BeginsDocument doc)
    (hlater : Later doc (p.rest.drop 1)) (hopens : ∀ t ∈ p.tokens.getLast?, t.isContent = true) :
    Passes doc q where
  ahead := .inl (h.ahead doc hdoc hlater)
  ne_nil := h.ne_nil
  opens := h.longer.opens hopens

theorem passes_readStart? (h : p.endBlocks?.map (fun r =>
      (r.skip 3).push (if '-' == '-' then .documentStart else .documentEnd)) = some q)
    (hpasses : Passes doc p) : Passes doc q := by
  obtain ⟨r, hr, rfl⟩ := Option.map_eq_some_iff.mp h
  have hstill := still_endBlocks? hr
  have hne : (r.skip 3).tokens ≠ [] := hstill.longer.ne_nil hpasses.ne_nil
  exact hpasses.of_longer (hstill.longer.trans (.cons_of_ne_nil hne .documentStart)) fun _ =>
    .inr List.mem_cons_self

include hdoc

theorem passes_readDirective? (h : (do
      let r ← p.endBlocks?
      let (t, rest) ← directive? s
      return (r.moveToLine rest).push t) = some q)
    (hp : p.rest = '%' :: s) (hpasses : Passes doc p) : Passes doc q := by
  obtain ⟨r, hr, h⟩ := Option.bind_eq_some_iff.mp h
  obtain ⟨⟨t, rest⟩, hread, h⟩ := Option.bind_eq_some_iff.mp h
  obtain rfl := Option.some.inj h
  have hstill := still_endBlocks? hr
  have hlonger : Longer p.tokens (r.moveToLine rest).tokens := by
    rw [tokens_moveToLine]
    exact hstill.longer
  have hne := hlonger.ne_nil hpasses.ne_nil
  refine hpasses.of_longer (hlonger.trans (.cons_of_ne_nil hne t)) fun hahead => .inl ?_
  rw [hp] at hahead
  have hs := hahead.later (by decide) (column_ne_of_ne_dash hdoc (by decide))
  obtain ⟨hlater, hend⟩ := later_directive? hread hs
  exact ahead_moveToLine hdoc hlater hend r

theorem passes_read? (h : p.read? c s = some q) (hp : p.rest = c :: s) (hline : isLineEnd c = false)
    (hpasses : Passes doc p) : Passes doc q := by
  by_cases hdirective : (decide (p.mark.column = 0) && c == '%') = true
  · unfold read? at h
    dsimp only at h
    rw [if_pos hdirective] at h
    obtain rfl := eq_of_beq (Bool.and_eq_true_iff.mp hdirective).2
    exact passes_readDirective? hdoc h hp hpasses
  by_cases hstart : (decide (p.mark.column = 0) && atDocumentMark (c :: s)) = true ∧ c = '-'
  · obtain ⟨hmark, rfl⟩ := hstart
    unfold read? at h
    dsimp only at h
    rw [if_neg hdirective, if_pos hmark] at h
    exact passes_readStart? h hpasses
  have hreads := reads_of_read? h hp hdirective fun hmark hc => hstart ⟨hmark, hc⟩
  refine hpasses.of_longer hreads.longer fun hahead => .inl (hreads.ahead doc hdoc ?_)
  rw [hp] at hahead ⊢
  refine hahead.later hline ?_
  rintro rfl hcolumn
  exact hstart ⟨by simp [hcolumn, hdoc.atDocumentMark], hdoc.head_eq⟩

/-- The characters that are skipped end no line and begin no document. -/
theorem later_of_skipped {blank : Bool} {m : Mark} (hskip : (c == ' ' || (c == '\t' && blank) ||
      (decide (m.column = 0) && isByteOrderMark c)) = true) (h : Ahead doc m (c :: s)) :
    Later doc s := by
  have hclass : (isSpaceOrTab c || isByteOrderMark c) = true := by
    simp only [isSpaceOrTab, Bool.or_eq_true, Bool.and_eq_true] at hskip ⊢
    exact hskip.imp (fun h => h.imp_right And.left) And.right
  refine h.later (not_isLineEnd_of (p := fun c => isSpaceOrTab c || isByteOrderMark c) (by decide)
    hclass) (column_ne_of_ne_dash hdoc ?_)
  rintro rfl
  exact absurd hclass (by decide)

theorem ahead_skipBlanks (flow : Bool) (s : Text) :
    (∀ keyAllowed m, Ahead doc m s → Ahead doc (skipBlanks flow keyAllowed m s).2.1
      (skipBlanks flow keyAllowed m s).2.2) ∧
    ∀ keyAllowed m, Later doc s → Ahead doc (skipBlanks.skipComment flow keyAllowed m s).2.1
      (skipBlanks.skipComment flow keyAllowed m s).2.2 := by
  induction s with
  | nil => exact ⟨fun _ _ h => absurd rfl (h.ne_nil hdoc), fun _ _ h => absurd h not_later_nil⟩
  | cons c s ih =>
    obtain ⟨hblanks, hcomment⟩ := ih
    constructor
    · intro keyAllowed m h
      unfold skipBlanks
      split_ifs with hblank hline hhash
      · exact hblanks _ _ ((later_of_skipped hdoc hblank h).ahead _)
      · exact hblanks _ _ (h.newLine hdoc hline)
      · refine hcomment _ _ (h.later (by simpa using hline) (column_ne_of_ne_dash hdoc ?_))
        rintro rfl
        contradiction
      · exact h
    · intro keyAllowed m h
      unfold skipBlanks.skipComment
      split_ifs with hline
      · exact hblanks _ _ ((h.ahead m).newLine hdoc hline)
      · exact hcomment _ _ (h.tail (by simpa using hline))

theorem passes_prepared? (h : p.prepared? = some q) (hpasses : Passes doc p) : Passes doc q := by
  have hstill := still_prepared? h
  refine hpasses.of_longer hstill.longer fun hahead => .inl ?_
  rw [hstill.mark, hstill.rest]
  exact (ahead_skipBlanks hdoc _ p.rest).1 _ _ hahead

/-- A reader that has begun with content and has a document ahead of it reads the beginning of this
document, or fails. -/
theorem documentStart_mem_of_run? {ts : List Token} (h : p.run? = some ts) (hpasses : Passes doc p) :
    (∃ t ∈ ts.head?, t.isContent = true) ∧ .documentStart ∈ ts := by
  fun_induction run? p with
  | case1 => contradiction
  | case2 p q hprepared hrest =>
    obtain ⟨r, hr, rfl⟩ := Option.map_eq_some_iff.mp h
    have hpasses' := passes_prepared? hdoc hprepared hpasses
    have hlonger := longer_endStream? hr
    refine ⟨?_, ?_⟩
    · obtain ⟨t, ht⟩ := Option.isSome_iff_exists.mp
        (List.getLast?_isSome.mpr (hlonger.ne_nil hpasses'.ne_nil))
      exact ⟨t, by rw [List.head?_reverse, ht]; rfl, hlonger.opens hpasses'.opens t ht⟩
    · rw [List.mem_reverse]
      refine hlonger.subset (hpasses'.ahead.resolve_left fun hahead => ?_)
      exact hahead.ne_nil hdoc hrest
  | case3 => contradiction
  | case4 p q hprepared c s hrest r hread _ ih =>
    refine ih h (passes_read? hdoc hread hrest ?_ (passes_prepared? hdoc hprepared hpasses))
    rw [(still_prepared? hprepared).rest] at hrest
    exact not_isLineEnd_of_skipBlanks hrest
  | case5 => contradiction

omit hdoc in
theorem toNextToken_rest (hc : isContentHead c = true) (hp : p.rest = c :: s) :
    p.toNextToken.rest = c :: s := by
  have hskip : skipBlanks (p.flow != 0) p.keyAllowed p.mark p.rest =
      (p.keyAllowed, p.mark, c :: s) := by
    simp only [isContentHead, isSpaceOrTab, Bool.not_eq_true', Bool.or_eq_false_iff] at hc
    obtain ⟨⟨⟨⟨⟨hspace, htab⟩, hline⟩, hmark⟩, hhash⟩, -⟩ := hc
    rw [hp, skipBlanks, hspace, htab, hline, hmark, hhash]
    simp
  rw [toNextToken, hskip]

/-- The first token of content is content. -/
theorem documentStart_mem_of_content {ts : List Token} (hc : isContentHead c = true)
    (hstart : ¬("---" : Text) <+: c :: s) (hlater : Later doc s)
    (h : run? { rest := c :: s } = some ts) :
    (∃ t ∈ ts.head?, t.isContent = true) ∧ .documentStart ∈ ts := by
  have hnext := toNextToken_rest (p := { rest := c :: s }) hc rfl
  rw [run?] at h
  split at h
  · contradiction
  next p hprepared =>
  have hstill := still_prepared? hprepared
  have hrest : p.rest = c :: s := hstill.rest.trans hnext
  rw [hrest] at h
  dsimp only at h
  split at h
  · contradiction
  next q hread =>
  split_ifs at h
  have hreads := reads_of_read? hread hrest ?_ ?_
  · refine documentStart_mem_of_run? hdoc h (.of_reads hreads hdoc ?_ ?_)
    · rwa [hrest]
    · exact hstill.longer.opens fun t ht => by contradiction
  · rintro hpercent
    obtain rfl := eq_of_beq (Bool.and_eq_true_iff.mp hpercent).2
    contradiction
  · rintro hmark rfl
    refine hstart ((prefix_of_atDocumentMark (Bool.and_eq_true_iff.mp hmark).2).resolve_right ?_)
    exact fun h => absurd (List.cons_prefix_cons.mp h).1 (by decide)

end Passes

end TokenReader

section Lines

open Print (isBreak)

variable {s t : Text} {c e : Char}

theorem unifyLines_cons (hc : isBreak c = false) (s : Text) :
    unifyLines (c :: s) = c :: unifyLines s := by
  simp only [isBreak, Bool.or_eq_false_iff, beq_eq_false_iff_ne] at hc
  obtain ⟨⟨-, hreturn⟩, hnext⟩ := hc
  rw [unifyLines, if_neg hnext]
  · exact fun _ h _ => hreturn h
  · exact fun h => hreturn h

/-- A dash is the image of nothing but a dash. -/
theorem eq_dash_of_unifyLines (h : unifyLines s = '-' :: t) : ∃ r, s = '-' :: r ∧ unifyLines r = t := by
  fun_cases unifyLines s with
  | case1 => exact absurd (List.cons.inj h).1 (by decide)
  | case2 s hfeed =>
    rw [unifyLines.eq_2 s hfeed] at h
    exact absurd (List.cons.inj h).1 (by decide)
  | case3 d r hpair hreturn =>
    rw [unifyLines.eq_3 d r hpair hreturn] at h
    obtain ⟨hhead, htail⟩ := List.cons.inj h
    split_ifs at hhead
    · contradiction
    · exact ⟨r, by rw [hhead], htail⟩
  | case4 => contradiction

theorem not_dashes_unifyLines (h : ¬("---" : Text) <+: s) : ¬("---" : Text) <+: unifyLines s := by
  rintro ⟨t, ht⟩
  obtain ⟨a, rfl, ha⟩ := eq_dash_of_unifyLines ht.symm
  obtain ⟨b, rfl, hb⟩ := eq_dash_of_unifyLines ha
  obtain ⟨d, rfl, -⟩ := eq_dash_of_unifyLines hb
  exact h ⟨d, rfl⟩

theorem beginsDocument_unifyLines (h : t = [] ∨ t.head? = some '\n') :
    BeginsDocument (unifyLines ("---" ++ t)) := by
  refine ⟨unifyLines t, rfl, ?_⟩
  rcases h with rfl | h
  · rfl
  · obtain ⟨t, rfl⟩ := List.head?_eq_some_iff.mp h
    rfl

/-- A break in front of a document ends a line. -/
theorem later_unifyLines (he : isBreak e = true) (hline : e ≠ '\n') (s t : Text) :
    Later (unifyLines ("---" ++ t)) (unifyLines (s ++ e :: ("---" ++ t))) := by
  have hbreak : Later (unifyLines ("---" ++ t)) (unifyLines (e :: ("---" ++ t))) := by
    by_cases hreturn : e = '\r'
    · rw [hreturn]
      exact later_cons_iff.mpr (.inl ⟨rfl, rfl⟩)
    · rw [unifyLines.eq_3 e _ (fun _ h _ => hreturn h) hreturn]
      refine later_cons_iff.mpr (.inl ⟨?_, rfl⟩)
      split_ifs with hnext
      · rfl
      · simpa [isBreak, hreturn, hnext] using he
  have hfeed' {r : Text} (hr : ∀ u, r = '\n' :: u → False) (u : Text) :
      r ++ e :: ("---" ++ t) ≠ '\n' :: u := by
    intro h
    cases r with
    | nil => exact hline (List.cons.inj h).1
    | cons d r => exact hr r (by rw [(List.cons.inj h).1])
  fun_induction unifyLines s with
  | case1 s ih =>
    rw [List.cons_append, List.cons_append, unifyLines]
    exact ih.cons '\n'
  | case2 s hfeed ih =>
    rw [List.cons_append, unifyLines.eq_2]
    · exact ih.cons '\n'
    · exact hfeed' hfeed
  | case3 d s hpair hreturn ih =>
    rw [List.cons_append, unifyLines.eq_3]
    · exact ih.cons _
    · exact fun u h => absurd h hreturn
    · exact hreturn
  | case4 => exact hbreak

/-- If a text begins with content and has the mark of a document on a later line, its tokens begin
with content too, and the beginning of that document is among them. -/
theorem documentStart_mem_tokens? {ts : List Token} (hc : isContentHead c = true)
    (hsame : isBreak c = false) (hstart : ¬("---" : Text) <+: c :: (s ++ e :: ("---" ++ t)))
    (he : isBreak e = true) (hline : e ≠ '\n') (ht : t = [] ∨ t.head? = some '\n')
    (h : tokens? (c :: (s ++ e :: ("---" ++ t))) = some ts) :
    (∃ t ∈ ts.head?, t.isContent = true) ∧ .documentStart ∈ ts := by
  have hmark : isByteOrderMark c = false := by
    simp only [isContentHead, Bool.not_eq_true', Bool.or_eq_false_iff] at hc
    exact hc.1.1.2
  unfold tokens? at h
  split_ifs at h
  rw [withoutByteOrderMark, hmark, if_neg Bool.false_ne_true, unifyLines_cons hsame] at h
  refine TokenReader.documentStart_mem_of_content (beginsDocument_unifyLines ht) hc ?_
    (later_unifyLines he hline s t) h
  rw [← unifyLines_cons hsame]
  exact not_dashes_unifyLines hstart

end Lines

end NoteVault.Yaml
