import NoteVault.Proofs.Filter.Call
import NoteVault.Proofs.Filter.Whole

/-! Membership in a list that a statement writes out. Whatever the quoted texts hold, the list is read
as it is written, except that an empty text in it is passed over. -/

namespace NoteVault

namespace Text

/-- Texts in quotes, one behind the other. -/
def quotedList (q : Char) (ts : List Text) : Text := join ", " (ts.map (quoted q))

theorem join_blank (t : Text) (ts : List Text) :
    join ", " (t :: ts) = join [','] (t :: ts.map (' ' :: ·)) := by
  induction ts generalizing t with
  | nil => rfl
  | cons u us ih =>
    have hblank : join [','] ((' ' :: u) :: us.map (' ' :: ·)) =
        ' ' :: join [','] (u :: us.map (' ' :: ·)) :=
      join_consHead [','] ' ' (u :: us.map (' ' :: ·))
    change t ++ [',', ' '] ++ join ", " (u :: us) =
      t ++ [','] ++ join [','] ((' ' :: u) :: us.map (' ' :: ·))
    rw [ih u, hblank]
    simp

variable {q : Char} {ts : List Text}

theorem stripQuotes_splitCommas_quotedList (hq : isQuote q = true) (hts : ∀ t ∈ ts, q ∉ t)
    (hne : ts ≠ []) : (splitCommas (quotedList q ts)).map stripQuotes = ts := by
  obtain ⟨t, us, rfl⟩ := List.exists_cons_of_ne_nil hne
  have hclosed : ∀ u ∈ quoted q t :: (us.map (quoted q)).map (' ' :: ·), CommaClosed u := by
    intro u hu
    rcases List.mem_cons.mp hu with rfl | hu
    · exact commaClosed_quoted hq (hts t List.mem_cons_self)
    · simp only [List.map_map, List.mem_map] at hu
      obtain ⟨w, hw, rfl⟩ := hu
      exact (commaClosed_quoted hq (hts w (List.mem_cons_of_mem t hw))).blank_cons (by decide)
  have hstrip : ∀ u, stripQuotes (trim (quoted q u)) = u := by
    intro u
    rw [trim_eq_self_iff.mpr (trimmed_quoted hq u), stripQuotes_quoted hq]
  rw [quotedList, List.map_cons, join_blank, splitCommas_join (List.cons_ne_nil _ _) hclosed]
  simp [hstrip, trim_blank_cons (show isBlank ' ' = true by decide), Function.comp_def]

end Text

namespace Connective

variable {q : Char} {ts : List Text}

theorem unsplit_comma_blank (hq : Text.isQuote q = true) (rest : Text) :
    Unsplit ", " (q :: rest) := by
  have hstart : Text.trimStart (q :: rest) = q :: rest :=
    Text.trimStart_eq_self_iff.mpr (by simpa using Text.isBlank_eq_false_of_isQuote hq)
  have halpha : q.isAlpha = false := by
    rw [Bool.eq_false_iff]
    intro h
    rw [Text.isQuote_eq_false_of_isAlpha h] at hq
    contradiction
  have hblank : Unsplit [' '] (q :: rest) := by
    refine unsplit_of_isBlank (List.all_eq_true.mp rfl) fun k hk => ?_
    refine afterSpacedWord?_of_not_isAlpha (plain_of_mem hk) ?_
    rw [hstart]
    simpa using halpha
  have hcomma : Unsplit [','] ([' '] ++ q :: rest) :=
    unsplit_of_isInert (List.all_eq_true.mp rfl) _
  exact hcomma.append hblank

theorem unsplit_quotedList (hq : Text.isQuote q = true) (hts : ∀ t ∈ ts, q ∉ t) (rest : Text) :
    Unsplit (Text.quotedList q ts) rest := by
  induction ts with
  | nil => exact unsplit_of_isInert (List.forall_mem_nil _) rest
  | cons t ts ih =>
    have ht := hts t List.mem_cons_self
    cases ts with
    | nil => exact unsplit_quoted hq ht rest
    | cons u us =>
      have hus := ih fun w hw => hts w (List.mem_cons_of_mem t hw)
      have hfront : Unsplit (Text.quoted q t ++ ", ".toList)
          (Text.quotedList q (u :: us) ++ rest) := by
        obtain ⟨s, hs⟩ : ∃ s, Text.quotedList q (u :: us) ++ rest = q :: s := by
          cases us <;> exact ⟨_, rfl⟩
        rw [hs]
        exact (unsplit_quoted hq ht _).append (unsplit_comma_blank hq s)
      exact hfront.append hus

end Connective

namespace Predicate

variable {s k : Text} {p : Predicate}

theorem cutAtLast?_eq_none {a : Char} (part : Text) (h : a ∉ s) :
    cutAtLast? (a :: part) s = none := by
  induction s with
  | nil => rfl
  | cons c s ih =>
    simp only [List.mem_cons, not_or] at h
    have hafter : Text.after? (a :: part) (c :: s) = none := if_neg h.1
    rw [cutAtLast?, ih h.2, hafter]
    rfl

theorem cutAtLast?_append {a : Char} {part r : Text} (h : a ∉ part ++ r) (l : Text) :
    cutAtLast? (a :: part) (l ++ a :: (part ++ r)) = some (l, r) := by
  induction l with
  | nil =>
    have hafter : Text.after? (a :: part) (a :: (part ++ r)) = some r :=
      Text.after?_append (a :: part) r
    rw [List.nil_append, cutAtLast?, cutAtLast?_eq_none part h, hafter]
    rfl
  | cons c l ih => rw [List.cons_append, cutAtLast?, ih]

/-- The text that tests membership of what a reference names in a list that is written out. -/
def listText (items k : Text) : Text := '[' :: (items ++ "].contains(".toList ++ k ++ [')'])

theorem listed?_listText (hk : Reference.isToken k = true) (items : Text) :
    listed? (listText items k) =
      some (.listed (((Text.splitCommas items).map Text.stripQuotes).filter fun t => !t.isEmpty)
        k) := by
  have hbracket : ']' ∉ ".contains(".toList ++ k := by
    intro hmem
    rcases List.mem_append.mp hmem with hmem | hmem
    · exact absurd hmem (by decide)
    · exact Reference.not_mem_of_isPathChar (Reference.isPathChar_of_isToken hk) (by decide) hmem
  have hbetween : Text.between? "[" ")" (listText items k) =
      some (items ++ "].contains(".toList ++ k) :=
    Text.between?_eq_some_iff.mpr (by simp [listText])
  have hcut : cutAtLast? "].contains(" (items ++ "].contains(".toList ++ k) = some (items, k) := by
    rw [List.append_assoc]
    exact cutAtLast?_append hbracket items
  simp only [listed?, hbetween, Option.bind_some, hcut, Option.map_some,
    Text.trim_eq_self_iff.mpr (Reference.trimmed_of_isToken hk)]

/-- No reader that stands in front of the one of lists takes a text that begins with a bracket. -/
theorem call?_of_listed? (h : listed? ('[' :: s) = some p) : call? ('[' :: s) = some p := by
  have hbetween : ∀ lead : Text, Text.between? ('f' :: lead) ")" ('[' :: s) = none := by
    intro lead
    have hafter : Text.after? ('f' :: lead) ('[' :: s) = none := if_neg (by decide)
    rw [Text.between?, hafter]
    rfl
  have htag := hbetween "ile.hasTag("
  have hfolder := hbetween "ile.inFolder("
  have hlink := hbetween "ile.hasLink("
  simp only [call?, List.findSome?_cons]
  rw [show Text.between? "file.hasTag(" ")" ('[' :: s) = none from htag,
    show Text.between? "file.inFolder(" ")" ('[' :: s) = none from hfolder,
    show Text.between? "file.hasLink(" ")" ('[' :: s) = none from hlink, h]
  rfl

theorem holds_listed_iff {n : Note} {fs : Formulas} {v : Value} (hk : Reference.isToken k = true)
    (hv : n.resolve fs k = some v) (hne : v ≠ .null) (items : List Text) :
    (listed items k).holds n fs = true ↔ ∃ w ∈ Value.toList (some v), w.display ∈ items := by
  have hreference : Reference.isReference k = true := by
    rwa [Reference.isReference, Text.trim_eq_self_iff.mpr (Reference.trimmed_of_isToken hk)]
  cases v with
  | null => contradiction
  | _ => simp [holds, hreference, hv, Value.toList]

end Predicate

namespace Condition

variable {q : Char} {ts : List Text} {k : Text}

theorem isWhole_listText (hq : Text.isQuote q = true) (hts : ∀ t ∈ ts, q ∉ t)
    (hk : Reference.isToken k = true) :
    IsWhole (Predicate.listText (Text.quotedList q ts) k) := by
  have hback : ∀ d ∈ "].contains(".toList ++ k ++ [')'], Connective.isInert d = true := by
    rw [List.forall_mem_append, List.forall_mem_append]
    exact ⟨⟨List.all_eq_true.mp rfl, fun d hd =>
      Connective.isInert_of_isPathChar (Reference.isPathChar_of_isToken hk d hd)⟩,
      List.all_eq_true.mp rfl⟩
  have htext : Predicate.listText (Text.quotedList q ts) k =
      ['['] ++ (Text.quotedList q ts ++ ("].contains(".toList ++ k ++ [')'])) := by
    simp [Predicate.listText]
  refine Connective.isWhole_of_unsplit (List.cons_ne_nil _ _) ⟨?_, ?_⟩ ?_
  · rintro _ ⟨⟩
    decide
  · rw [htext, ← List.append_assoc, ← List.append_assoc, List.getLast?_concat]
    rintro _ ⟨⟩
    decide
  · rw [htext]
    exact (Connective.unsplit_of_isInert (List.all_eq_true.mp rfl) _).append <|
      (Connective.unsplit_quotedList hq hts _).append (Connective.unsplit_of_isInert hback [])

theorem ofText_listText (hq : Text.isQuote q = true) (hts : ∀ t ∈ ts, q ∉ t)
    (hk : Reference.isToken k = true) :
    ofText (Predicate.listText (Text.quotedList q ts) k) =
      .predicate (.listed (ts.filter fun t => !t.isEmpty) k) := by
  have hitems : ((Text.splitCommas (Text.quotedList q ts)).map Text.stripQuotes).filter
      (fun t => !t.isEmpty) = ts.filter fun t => !t.isEmpty := by
    by_cases hnil : ts = []
    · subst hnil
      rfl
    · rw [Text.stripQuotes_splitCommas_quotedList hq hts hnil]
  have hcall := Predicate.call?_of_listed? (Predicate.listed?_listText hk (Text.quotedList q ts))
  rw [hitems] at hcall
  refine ofText_predicate (isWhole_listText hq hts hk) rfl ?_
  rw [Predicate.ofText?, Predicate.listText, hcall]

/-- A list that is written out holds what a reference names exactly if one of its texts that are not
empty is the text of the value, or of an element of it. -/
theorem evaluate_listText {n : Note} {fs : Formulas} {v : Value} (hq : Text.isQuote q = true)
    (hts : ∀ t ∈ ts, q ∉ t) (hk : Reference.isToken k = true) (hv : n.resolve fs k = some v)
    (hne : v ≠ .null) :
    let outcome := evaluate n fs (Predicate.listText (Text.quotedList q ts) k)
    outcome.warnings = [] ∧ (outcome.ok = true ↔
      ∃ w ∈ Value.toList (some v), w.display ≠ [] ∧ w.display ∈ ts) := by
  intro outcome
  have houtcome : outcome = .of ((Predicate.listed (ts.filter fun t => !t.isEmpty) k).holds n fs) := by
    simp only [outcome, evaluate, ofText_listText hq hts hk, Condition.outcome]
  rw [houtcome]
  refine ⟨rfl, (Predicate.holds_listed_iff hk hv hne _).trans ?_⟩
  simp only [List.mem_filter, Bool.not_eq_true', List.isEmpty_eq_false_iff]
  exact exists_congr fun w => and_congr_right fun _ => and_comm

theorem evaluate_listText_places :
    let n := { Note.ofMarkdown "N.md" [] {} with
      frontmatter := .ofList [("place", .list [.text "Bern", .text "a, ].contains(b"])] }
    let ts : List Text := ["a, ].contains(b", [], " and "]
    Text.isQuote '"' = true ∧ (∀ t ∈ ts, '"' ∉ t) ∧ Reference.isToken "note.place" = true ∧
      (evaluate n .empty (Predicate.listText (Text.quotedList '"' ts) "note.place")).ok = true := by
  intro n ts
  have hts : ∀ t ∈ ts, '"' ∉ t := by decide
  have hv : n.resolve .empty "note.place" =
      some (.list [.text "Bern", .text "a, ].contains(b"]) := rfl
  have h := evaluate_listText (q := '"') (by decide) hts (by decide) hv (fun h => nomatch h)
  refine ⟨by decide, hts, by decide, h.2.mpr ⟨.text "a, ].contains(b", by simp [Value.toList], ?_⟩⟩
  exact ⟨by decide, List.mem_cons_self⟩

/-- An empty text is never found in a list, not even in one that holds it. -/
theorem evaluate_listText_empty :
    let n := { Note.ofMarkdown "N.md" [] {} with frontmatter := .ofList [("x", .text [])] }
    Predicate.listText (Text.quotedList '\'' [[]]) "x" = "[''].contains(x)" ∧
      n.resolve .empty "x" = some (.text []) ∧ (Value.text []).display ∈ [([] : Text)] ∧
      (evaluate n .empty "[''].contains(x)").ok = false := by
  intro n
  have htext : Predicate.listText (Text.quotedList '\'' [[]]) "x" = "[''].contains(x)" := rfl
  have hempty : ∀ t ∈ [([] : Text)], '\'' ∉ t := by decide
  have hread := ofText_listText (k := "x") (by decide) hempty (by decide)
  rw [htext] at hread
  refine ⟨htext, rfl, List.mem_cons_self, ?_⟩
  rw [evaluate, hread]
  rfl

end Condition

end NoteVault
