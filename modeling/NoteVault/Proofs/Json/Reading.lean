import NoteVault.Json.Parse
import NoteVault.Json.Print
import NoteVault.Proofs.Number.Decimal
import NoteVault.Proofs.Text.Utf8

/-! Printed JSON is read back: quoted texts, integers, and records of what is read back. -/

namespace NoteVault.Json

/-- A text as a source without broken bytes. -/
def source (t : Text) : Source := t.map .char

@[simp] theorem source_nil : source [] = [] := rfl

@[simp] theorem source_cons (c : Char) (t : Text) : source (c :: t) = .char c :: source t := rfl

@[simp] theorem source_append (s t : Text) : source (s ++ t) = source s ++ source t :=
  List.map_append

section Quoted

theorem marks?_char {c : Char} (hquote : c ≠ '"') (hslash : c ≠ '\\') (h : 32 ≤ c.toNat)
    (s : Source) : marks? (.char c :: s) = (marks? s).map (consFirst (.char c)) := by
  rw [marks?]
  · rw [if_neg]
    simpa [hslash] using h
  · exact hquote
  · exact fun _ _ _ _ _ _ => hslash
  · exact fun _ _ _ => hslash

theorem marks?_escape {c e : Char} (hc : c ≠ 'u') (he : unescape? c = some e) (s : Source) :
    marks? (.char '\\' :: .char c :: s) = (marks? s).map (consFirst (.char e)) := by
  rw [marks?]
  · rw [he]
  · exact fun _ _ _ _ _ _ => hc

theorem hex4?_control {n : Nat} (h : n < 32) :
    hex4? '0' '0' (hexDigit (n / 16)) (hexDigit n) = some n := by
  revert n
  decide

/-- A character behind its escape is read as a mark that writes it. -/
theorem exists_marks?_escaped (c : Char) :
    ∃ m, (∀ ms, textOf? (m :: ms) = (textOf? ms).map (c :: ·)) ∧
      ∀ s, marks? (source (escaped c) ++ s) = (marks? s).map (consFirst m) := by
  have hchar : ∀ n, c.toNat = n → Char.ofNat n = c := by
    rintro _ rfl
    exact Char.ofNat_toNat c
  unfold escaped
  split_ifs with h1 h2 h3 h4 h5 h6 h7 h8
  · exact ⟨.char c, fun _ => rfl, marks?_escape (by decide) (by rw [h1]; rfl)⟩
  · exact ⟨.char c, fun _ => rfl, marks?_escape (by decide) (by rw [h2]; rfl)⟩
  · exact ⟨.char c, fun _ => rfl, marks?_escape (by decide) (by rw [h3]; rfl)⟩
  · exact ⟨.char c, fun _ => rfl, marks?_escape (by decide) (by rw [h4]; rfl)⟩
  · exact ⟨.char c, fun _ => rfl, marks?_escape (by decide) (by rw [h5]; rfl)⟩
  · exact ⟨.char c, fun _ => rfl, marks?_escape (by decide) (by rw [← hchar 8 h6]; rfl)⟩
  · exact ⟨.char c, fun _ => rfl, marks?_escape (by decide) (by rw [← hchar 12 h7]; rfl)⟩
  · refine ⟨.unit c.toNat, fun ms => ?_, fun s => ?_⟩
    · have hlow : ¬ 0xD800 ≤ c.toNat := by omega
      have hhigh : ¬ 0xDC00 ≤ c.toNat := by omega
      rw [textOf?.eq_def]
      simp [hlow, hhigh, hchar]
    · change marks? (.char '\\' :: .char 'u' :: .char '0' :: .char '0' ::
        .char (hexDigit (c.toNat / 16)) :: .char (hexDigit c.toNat) :: s) = _
      rw [marks?, hex4?_control h8]
  · exact ⟨.char c, fun _ => rfl, marks?_char h1 h2 (by omega)⟩

theorem quotedRest?_quoted (t : Text) (s : Source) :
    quotedRest? (source (t.flatMap escaped ++ ['"']) ++ s) = some (some t, s) := by
  have hmarks : ∃ ms, textOf? ms = some t ∧
      marks? (source (t.flatMap escaped ++ ['"']) ++ s) = some (ms, s) := by
    induction t with
    | nil => exact ⟨[], rfl, rfl⟩
    | cons c t ih =>
      obtain ⟨ms, htext, hms⟩ := ih
      obtain ⟨m, hm, hread⟩ := exists_marks?_escaped c
      refine ⟨m :: ms, by rw [hm, htext]; rfl, ?_⟩
      rw [List.flatMap_cons, List.append_assoc, source_append, List.append_assoc, hread, hms]
      rfl
  obtain ⟨ms, htext, hms⟩ := hmarks
  simp only [quotedRest?, hms, Option.map_some, htext]

end Quoted

section Integer

theorem isNumeralChar_of_mem_ofInt {n : Int} {c : Char} (h : c ∈ Text.ofInt n) :
    isNumeralChar c = true := by
  rw [Text.ofInt_eq, List.mem_append] at h
  rcases h with h | h
  · split_ifs at h
    · rw [List.mem_singleton.mp h]
      decide
    · exact absurd h List.not_mem_nil
  · simp [isNumeralChar, Text.isDigit_of_mem_ofNat h]

theorem numeral_append {t : Text} (ht : ∀ c ∈ t, isNumeralChar c = true) {s : Source}
    (hs : ∀ c, s.head? = some (.char c) → isNumeralChar c = false) :
    numeral (source t ++ s) = (t, s) := by
  induction t with
  | nil =>
    rw [source_nil, List.nil_append]
    unfold numeral
    split
    · next c r => simp [hs c rfl]
    · rfl
  | cons c t ih =>
    rw [source_cons, List.cons_append, numeral, if_pos (ht c List.mem_cons_self),
      ih fun d hd => ht d (List.mem_cons_of_mem c hd)]

theorem isStrict_ofInt (n : Int) : isStrict (Text.ofInt n) = true := by
  have hne : (Text.ofNat n.natAbs).isEmpty = false := by
    simpa using Text.ofNat_ne_nil n.natAbs
  have hzero : ((Text.ofNat n.natAbs).head? == some '0' &&
      decide ((Text.ofNat n.natAbs).length > 1)) = false := by
    cases hd : Text.ofNat n.natAbs with
    | nil => rfl
    | cons c cs =>
      by_cases hc : c = '0'
      · rw [hc] at hd
        rw [Text.ofNat_eq_zero_cons hd]
        simp
      · simp [hc]
  rw [Text.ofInt_eq]
  unfold isStrict
  by_cases hn : n < 0
  · simp [hn, Text.takeWhile_isDigit_ofNat, Text.dropWhile_isDigit_ofNat, hne, hzero]
  · rw [if_neg hn, List.nil_append]
    split
    · next r hr =>
      have hdigit : '-'.isDigit = true := Text.isDigit_of_mem_ofNat (hr ▸ List.mem_cons_self)
      contradiction
    · simp [Text.takeWhile_isDigit_ofNat, Text.dropWhile_isDigit_ofNat, hne, hzero]

theorem numberOf?_int {n : Int} (h : isInteger64 n = true) :
    numberOf? ⟨decide (n < 0), n.natAbs, 0⟩ true = some (.int n) := by
  have hvalue : (if decide (n < 0) = true then -(n.natAbs : Int) else n.natAbs) = n := by
    by_cases hn : n < 0
    · rw [decide_eq_true hn, if_pos rfl]
      omega
    · rw [decide_eq_false hn, if_neg Bool.false_ne_true]
      omega
  have hzero : (decide (n < 0) && n.natAbs == 0) = false := by
    by_cases hn : n < 0
    · have habs : n.natAbs ≠ 0 := by omega
      rw [decide_eq_true hn, Bool.true_and, beq_eq_false_iff_ne]
      exact habs
    · rw [decide_eq_false hn, Bool.false_and]
  simp only [numberOf?, hvalue, h, hzero]
  rfl

theorem number?_ofInt {n : Int} (h : isInteger64 n = true) {s : Source}
    (hs : ∀ c, s.head? = some (.char c) → isNumeralChar c = false) :
    number? (source (Text.ofInt n) ++ s) = some (.number (some (.int n)), s) := by
  have hwhole : (Text.ofInt n).all (fun c => c.isDigit || c == '-') = true := by
    rw [Text.ofInt_eq, List.all_append, Bool.and_eq_true]
    refine ⟨?_, List.all_eq_true.mpr fun c hc => ?_⟩
    · split_ifs <;> rfl
    · simp [Text.isDigit_of_mem_ofNat hc]
  have hread := numeral_append (fun _ hc => isNumeralChar_of_mem_ofInt hc) hs (t := Text.ofInt n)
  simp only [number?, hread, isStrict_ofInt, if_true, Decimal.ofText?_ofInt, hwhole,
    numberOf?_int h, Option.map_some]

end Integer

/-- A text that holds nothing but the spaces between the parts of a document. -/
def IsGap (t : Text) : Prop := ∀ c ∈ t, isSpace c = true

theorem skip_gap {t : Text} (h : IsGap t) (s : Source) : skip (source t ++ s) = skip s := by
  induction t with
  | nil => rfl
  | cons c t ih =>
    rw [source_cons, List.cons_append, skip, if_pos (h c List.mem_cons_self),
      ih fun d hd => h d (List.mem_cons_of_mem c hd)]

theorem skip_char {c : Char} (h : isSpace c = false) (s : Source) :
    skip (.char c :: s) = .char c :: s := by
  rw [skip, h]
  rfl

/-- A source does not go on with a numeral. -/
def EndsNumeral (s : Source) : Prop := ∀ c, s.head? = some (.char c) → isNumeralChar c = false

/-- A text is read back as a part, in front of anything that does not continue a numeral. -/
def Reads (t : Text) (n : Node) : Prop :=
  ∀ fuel s, t.length < fuel → EndsNumeral s → node? fuel (source t ++ s) = some (n, s)

theorem node?_of_isNumeralChar {c : Char} (hc : isNumeralChar c = true) (fuel : Nat) (s : Source) :
    node? (fuel + 1) (.char c :: s) = number? (.char c :: s) := by
  have hne : ∀ d, isNumeralChar d = false → c ≠ d := by
    rintro d hd rfl
    rw [hc] at hd
    contradiction
  have hspace : isSpace c = false := by
    simp [isSpace, hne ' ' (by decide), hne '\n' (by decide), hne '\t' (by decide),
      hne '\r' (by decide)]
  have hword : word? (.char c :: s) = none := by
    simp [word?, afterWord?, (hne 'n' (by decide)).symm, (hne 't' (by decide)).symm,
      (hne 'f' (by decide)).symm]
  rw [node?, skip_char hspace]
  split
  · next h => exact absurd (Utf8.Piece.char.inj (List.cons.inj h).1) (hne '"' (by decide))
  · next h => exact absurd (Utf8.Piece.char.inj (List.cons.inj h).1) (hne '[' (by decide))
  · next h => exact absurd (Utf8.Piece.char.inj (List.cons.inj h).1) (hne '\x7b' (by decide))
  · rw [hword, Option.none_or]

theorem reads_ofInt {n : Int} (h : isInteger64 n = true) :
    Reads (Text.ofInt n) (.number (some (.int n))) := by
  intro fuel s hfuel hs
  obtain ⟨fuel, rfl⟩ : ∃ k, fuel = k + 1 := ⟨fuel - 1, by omega⟩
  have hnumber := number?_ofInt h hs
  cases ht : Text.ofInt n with
  | nil =>
    rw [Text.ofInt_eq, List.append_eq_nil_iff] at ht
    exact absurd ht.2 (Text.ofNat_ne_nil _)
  | cons c t =>
    rw [ht] at hnumber
    have hc : isNumeralChar c = true := isNumeralChar_of_mem_ofInt (ht ▸ List.mem_cons_self)
    rw [source_cons, List.cons_append, node?_of_isNumeralChar hc]
    exact hnumber

section Record

variable {α : Type} {name text : α → Text} {value : α → Value} {node : α → Node}

theorem node?_congr {s t : Source} (h : skip s = skip t) (fuel : Nat) :
    node? fuel s = node? fuel t := by
  cases fuel with
  | zero => rfl
  | succ fuel => rw [node?, node?, h]

theorem newLine_gap (depth : Nat) : IsGap (newLine depth) := by
  intro c hc
  rcases List.mem_cons.mp hc with rfl | hc
  · rfl
  · rw [(List.mem_replicate.mp hc).2]
    rfl

theorem newLine_endsNumeral (depth : Nat) (s : Source) :
    EndsNumeral (source (newLine depth) ++ s) := by
  rintro c ⟨⟩
  rfl

/-- A member of a record as it is printed. -/
def member (name t : Text) : Text := quoted name ++ ':' :: ' ' :: t

section Member

variable {name t : Text} {n : Node} {fuel : Nat} {gap : Text} {r s : Source}

theorem node?_member (h : Reads t n) (hfuel : t.length < fuel) (hr : EndsNumeral r) :
    node? fuel (.char ' ' :: (source t ++ r)) = some (n, r) := by
  have hspace : skip (.char ' ' :: (source t ++ r)) = skip (source t ++ r) :=
    skip_gap (t := [' ']) (by simp [IsGap, isSpace]) _
  rw [node?_congr hspace]
  exact h fuel r hfuel hr

theorem source_member (name t : Text) (r : Source) : source (member name t) ++ r =
    .char '"' :: (source (name.flatMap escaped ++ ['"']) ++ .char ':' :: .char ' ' ::
      (source t ++ r)) := by
  simp [member, quoted]

theorem members?_last (h : Reads t n) (hfuel : t.length < fuel) (hgap : IsGap gap)
    (hr : EndsNumeral r) (hclose : skip r = .char '\x7d' :: s) :
    members? (fuel + 1) (source gap ++ (source (member name t) ++ r)) =
      some ([(some name, n)], s) := by
  rw [source_member, members?, skip_gap hgap, skip_char (by decide)]
  simp only [quotedRest?_quoted, skip_char (c := ':') (by decide), node?_member h hfuel hr, hclose]

theorem members?_more (h : Reads t n) (hfuel : t.length < fuel) (hgap : IsGap gap)
    (hr : EndsNumeral r) (hcomma : skip r = .char ',' :: s) :
    members? (fuel + 1) (source gap ++ (source (member name t) ++ r)) =
      (members? fuel s).map (consFirst (some name, n)) := by
  rw [source_member, members?, skip_gap hgap, skip_char (by decide)]
  simp only [quotedRest?_quoted, skip_char (c := ':') (by decide), node?_member h hfuel hr, hcomma]

theorem length_lt_member (name t : Text) : t.length + 4 ≤ (member name t).length := by
  simp [member, quoted]

end Member

/-- The members of a record behind a gap, up to the closing brace. -/
theorem members?_printed (name : α → Text) (depth : Nat) {m : α} {ms : List α}
    (h : ∀ a ∈ m :: ms, Reads (text a) (node a)) {fuel : Nat}
    (hfuel : (Text.join (',' :: newLine (depth + 1))
      ((m :: ms).map fun a => member (name a) (text a))).length < fuel) (s : Source) :
    members? fuel (source (newLine (depth + 1)) ++
      (source (Text.join (',' :: newLine (depth + 1)) ((m :: ms).map fun a =>
        member (name a) (text a))) ++ (source (newLine depth) ++ .char '\x7d' :: s))) =
      some ((m :: ms).map fun a => (some (name a), node a), s) := by
  induction ms generalizing m fuel with
  | nil =>
    have hlen := length_lt_member (name m) (text m)
    simp only [List.map_cons, List.map_nil, Text.join] at hfuel ⊢
    obtain ⟨fuel, rfl⟩ : ∃ k, fuel = k + 1 := ⟨fuel - 1, by omega⟩
    refine members?_last (h m List.mem_cons_self) (by omega) (newLine_gap _)
      (newLine_endsNumeral _ _) ?_
    rw [skip_gap (newLine_gap _), skip_char (by decide)]
  | cons m' ms ih =>
    have hlen := length_lt_member (name m) (text m)
    have hjoin : Text.join (',' :: newLine (depth + 1))
        ((m :: m' :: ms).map fun a => member (name a) (text a)) =
        member (name m) (text m) ++ ',' :: newLine (depth + 1) ++
          Text.join (',' :: newLine (depth + 1))
            ((m' :: ms).map fun a => member (name a) (text a)) := rfl
    rw [hjoin] at hfuel ⊢
    rw [List.length_append, List.length_append, List.length_cons] at hfuel
    obtain ⟨fuel, rfl⟩ : ∃ k, fuel = k + 1 := ⟨fuel - 1, by omega⟩
    have hrest := @ih m' (fun a ha => h a (List.mem_cons_of_mem m ha)) fuel (by omega)
    simp only [source_append, source_cons, List.append_assoc, List.cons_append]
    rw [members?_more (h m List.mem_cons_self) (by omega) (newLine_gap _) ?_
      (skip_char (by decide) _), hrest]
    · rfl
    · rintro c ⟨⟩
      rfl

theorem indentedFields_eq (depth : Nat) (fs : List (Text × Value)) :
    indentedFields depth fs = fs.map fun f => member f.1 (indented depth f.2) := by
  induction fs with
  | nil => rfl
  | cons f fs ih => rw [indentedFields, ih, List.map_cons, member]

theorem members?_congr {s t : Source} (h : skip s = skip t) (fuel : Nat) :
    members? fuel s = members? fuel t := by
  cases fuel with
  | zero => rfl
  | succ fuel => rw [members?, members?, h]

theorem node?_emptyRecord (fuel : Nat) (s : Source) :
    node? (fuel + 1) (.char '\x7b' :: .char '\x7d' :: s) = some (.record [], s) := by
  rw [node?, skip_char (by decide)]
  rfl

theorem node?_openRecord {fuel : Nat} {r s t : Source} {ms : List (Option Text × Node)}
    (h : members? fuel r = some (ms, s)) (hopen : skip r = .char '"' :: t) :
    node? (fuel + 1) (.char '\x7b' :: r) = some (.record ms, s) := by
  have hmembers : members? fuel (.char '"' :: t) = some (ms, s) := by
    rw [← h]
    refine members?_congr ?_ fuel
    rw [hopen, skip_char (by decide)]
  rw [node?, skip_char (by decide)]
  simp only [hopen]
  change (members? fuel (.char '"' :: t)).map _ = _
  rw [hmembers]
  rfl

theorem exists_join_member (name t sep : Text) (ts : List Text) :
    ∃ r, Text.join sep (member name t :: ts) = '"' :: r := by
  cases ts with
  | nil => exact ⟨_, rfl⟩
  | cons u us => exact ⟨_, rfl⟩

/-- A record is read back if the values of its fields are. -/
theorem reads_record (name : α → Text) (value : α → Value) (node : α → Node) {depth : Nat}
    {ms : List α}
    (h : ∀ a ∈ ms, Reads (indented (depth + 1) (value a)) (node a)) :
    Reads (indented depth (.record (ms.map fun a => (name a, value a))))
      (.record (ms.map fun a => (some (name a), node a))) := by
  intro fuel s hfuel hs
  obtain ⟨fuel, rfl⟩ : ∃ k, fuel = k + 1 := ⟨fuel - 1, by omega⟩
  rw [indented, indentedFields_eq, List.map_map] at hfuel ⊢
  cases ms with
  | nil => exact node?_emptyRecord fuel s
  | cons m ms =>
    have htext : bracketed '\x7b' '\x7d' depth
        ((m :: ms).map fun a => member (name a) (indented (depth + 1) (value a))) =
        '\x7b' :: (newLine (depth + 1) ++ (Text.join (',' :: newLine (depth + 1))
          ((m :: ms).map fun a => member (name a) (indented (depth + 1) (value a))) ++
            (newLine depth ++ ['\x7d']))) := by
      simp [bracketed]
    change (bracketed '\x7b' '\x7d' depth
      ((m :: ms).map fun a => member (name a) (indented (depth + 1) (value a)))).length < _ at hfuel
    change node? _ (source (bracketed '\x7b' '\x7d' depth
      ((m :: ms).map fun a => member (name a) (indented (depth + 1) (value a)))) ++ s) = _
    rw [htext] at hfuel ⊢
    simp only [List.length_cons, List.length_append] at hfuel
    have hread := members?_printed name depth h (by omega : _ < fuel) s
    simp only [source_cons, source_append, List.cons_append, List.append_assoc, source_nil,
      List.nil_append]
    obtain ⟨r, hr⟩ := exists_join_member (name m) (indented (depth + 1) (value m))
      (',' :: newLine (depth + 1))
      (ms.map fun a => member (name a) (indented (depth + 1) (value a)))
    refine node?_openRecord hread ?_ (t := source r ++ (source (newLine depth) ++ .char '\x7d' :: s))
    rw [skip_gap (newLine_gap _), List.map_cons, hr, source_cons, List.cons_append,
      skip_char (by decide)]

end Record

theorem ofBytes?_encode {t : Text} {n : Node} (h : Reads t n) :
    ofBytes? (Utf8.encode t) = some n := by
  have hread := h (2 * t.length + 1) [] (by omega) (by simp [EndsNumeral])
  have hlen : (source t).length = t.length := List.length_map _
  rw [List.append_nil] at hread
  rw [ofBytes?, Utf8.piecesOf_encode]
  change document? (source t) = some n
  rw [document?, hlen, hread]
  rfl

end NoteVault.Json
