import NoteVault.Proofs.Filter.Call
import NoteVault.Proofs.Filter.Whole
import NoteVault.Proofs.Note.Path

/-! The quoted argument of a call is opaque: connectives, commas, brackets and signs in it are left
alone, and the call tests the note for just that text. -/

namespace NoteVault

/-- What it means that a text stands in another, or at its beginning. -/
def TextTest.Holds : TextTest → Text → Text → Prop
  | contains, needle, s => needle <:+: s
  | startsWith, needle, s => needle <+: s

theorem TextTest.holds_iff (test : TextTest) (needle s : Text) :
    test.holds needle s = true ↔ test.Holds needle s := by
  cases test with
  | contains => exact Text.holds_iff
  | startsWith => exact Text.beginsWith_iff

/-- The calls with one text for an argument. -/
inductive Call where
  | hasTag
  | tagsContain
  | inFolder
  | hasLink
  | field (f : FileField) (h : f ∈ [FileField.path, .folder, .name, .ext]) (test : TextTest)
  | linksTo (k : Text) (h : Reference.IsProperty k)
  | listLinksTo (k : Text) (h : Reference.IsProperty k)

namespace Call

/-- What stands in front of the first parenthesis. -/
def name : Call → Text
  | hasTag => "file.hasTag"
  | tagsContain => "file.tags.contains"
  | inFolder => "file.inFolder"
  | hasLink => "file.hasLink"
  | field f _ test => Predicate.testName f test
  | linksTo k _ => k ++ ".contains".toList
  | listLinksTo _ _ => "list"

/-- What stands between the first parenthesis and the last one. -/
def inner (a : Text) : Call → Text
  | linksTo _ _ => "link(".toList ++ a ++ [')']
  | listLinksTo k _ => k ++ ").contains(link(".toList ++ a ++ [')']
  | _ => a

/-- A call as it is written with an argument, such as `list(…).contains(link(…))`. -/
def text (c : Call) (a : Text) : Text := c.name ++ '(' :: (c.inner a ++ [')'])

/-- What a call says about a note and a text. -/
def Holds (n : Note) (fs : Formulas) (t : Text) : Call → Prop
  | hasTag | tagsContain => ∃ tag ∈ n.tags, Tag.bare tag = Tag.bare t
  | inFolder =>
    let folder := Path.trimSlashes t
    folder = [] ∨ folder = n.folder ∨ folder ++ ['/'] <+: n.folder
  | hasLink => ∃ link ∈ n.links, Link.target link = Link.target t
  | field f _ test => test.Holds t (f.value n).display
  | linksTo k _ | listLinksTo k _ =>
    ∃ v ∈ Value.toList (n.resolve fs k), Link.target v.display = Link.target t

/-- The predicate that a call with a quoted text writes. -/
def predicate (t : Text) : Call → Predicate
  | hasTag | tagsContain => .hasTag [t]
  | inFolder => .inFolder (Path.trimSlashes t)
  | hasLink => .hasLink (Link.target t)
  | field f _ test => .field f test t
  | linksTo k _ | listLinksTo k _ => .linksTo k (Link.target t)

theorem holds_predicate_iff (c : Call) {n : Note} (hn : n.folder = Path.folder n.path)
    (fs : Formulas) (t : Text) : (c.predicate t).holds n fs = true ↔ c.Holds n fs t := by
  cases c with
  | hasTag | tagsContain => simp [predicate, Predicate.holds, Holds]
  | hasLink => simp [predicate, Predicate.holds, Holds]
  | linksTo k | listLinksTo k => simp [predicate, Predicate.holds, Holds]
  | field f _ test => exact test.holds_iff t _
  | inFolder =>
    by_cases hnil : Path.trimSlashes t = []
    · simp [predicate, Predicate.holds, Holds, hnil]
    · have hlead := Path.folder_prefix_iff (p := n.path) hnil
      rw [← hn] at hlead
      simpa [predicate, Predicate.holds, Holds, hnil, Text.beginsWith_iff, Predicate.folderPath]
        using hlead

/-! ### Reading a call -/

theorem isPathChar_of_mem_name (c : Call) : ∀ d ∈ c.name, Reference.isPathChar d = true := by
  cases c with
  | hasTag | tagsContain | inFolder | hasLink | listLinksTo => exact List.all_eq_true.mp rfl
  | field f _ test => exact Predicate.isPathChar_of_mem_testName f test
  | linksTo k hk =>
    have hword := List.all_eq_true.mp (rfl : ".contains".toList.all Reference.isPathChar = true)
    exact List.forall_mem_append.mpr ⟨Reference.isPathChar_of_isToken hk.isToken, hword⟩

theorem name_ne_nil (c : Call) : c.name ≠ [] := by
  cases c with
  | linksTo k hk => exact List.append_ne_nil_of_right_ne_nil k (by decide)
  | _ => exact List.cons_ne_nil _ _

theorem exists_inner_eq (c : Call) :
    ∃ l r : Text, (∀ d ∈ l, Connective.isInert d = true) ∧ (∀ d ∈ r, Connective.isInert d = true) ∧
      ∀ a, c.inner a = l ++ a ++ r := by
  cases c with
  | linksTo =>
    exact ⟨"link(", [')'], List.all_eq_true.mp rfl, List.all_eq_true.mp rfl, fun a => rfl⟩
  | listLinksTo k hk =>
    have hinert : ∀ d ∈ k ++ ").contains(link(".toList, Connective.isInert d = true := by
      refine List.forall_mem_append.mpr ⟨fun d hd => ?_, List.all_eq_true.mp rfl⟩
      exact Connective.isInert_of_isPathChar (Reference.isPathChar_of_isToken hk.isToken d hd)
    exact ⟨k ++ ").contains(link(".toList, [')'], hinert, List.all_eq_true.mp rfl, fun a => rfl⟩
  | _ => exact ⟨[], [], List.forall_mem_nil _, List.forall_mem_nil _, fun a => (List.append_nil a).symm⟩

variable {q : Char} {t : Text}

theorem isWhole_text (c : Call) (hq : Text.isQuote q = true) (ht : q ∉ t) :
    IsWhole (c.text (Text.quoted q t)) := by
  obtain ⟨l, r, hl, hr, hinner⟩ := c.exists_inner_eq
  have hname := c.isPathChar_of_mem_name
  have hfront : ∀ d ∈ c.name ++ '(' :: l, Connective.isInert d = true := by
    rw [List.forall_mem_append, List.forall_mem_cons]
    exact ⟨fun d hd => Connective.isInert_of_isPathChar (hname d hd), by decide, hl⟩
  have hback : ∀ d ∈ r ++ [')'], Connective.isInert d = true :=
    List.forall_mem_append.mpr ⟨hr, List.all_eq_true.mp rfl⟩
  have htext : c.text (Text.quoted q t) =
      (c.name ++ '(' :: l) ++ (Text.quoted q t ++ (r ++ [')'])) := by
    simp [text, hinner]
  have hunsplit : Connective.Unsplit (c.text (Text.quoted q t)) [] := by
    rw [htext]
    exact (Connective.unsplit_of_isInert hfront _).append <|
      (Connective.unsplit_quoted hq ht _).append (Connective.unsplit_of_isInert hback [])
  have hne : c.text (Text.quoted q t) ≠ [] := List.append_ne_nil_of_left_ne_nil c.name_ne_nil _
  refine Connective.isWhole_of_unsplit hne ⟨?_, ?_⟩ hunsplit
  · rw [text, List.head?_append_of_ne_nil _ c.name_ne_nil]
    exact fun d hd =>
      Reference.isBlank_eq_false_of_isPathChar (hname d (List.mem_of_mem_head? hd))
  · have hlast : (c.text (Text.quoted q t)).getLast? = some ')' := by
      rw [htext, ← List.append_assoc, ← List.append_assoc, List.getLast?_concat]
    rw [hlast]
    rintro _ ⟨⟩
    decide

theorem negated?_text (c : Call) (a : Text) : Condition.negated? (c.text a) = none := by
  have hhead : ∀ d ∈ ('(' :: (c.inner a ++ [')'])).head?,
      d.isAlpha = false ∧ Text.isBlank d = false := by
    rw [List.head?_cons]
    rintro _ ⟨⟩
    decide
  exact Condition.negated?_of_isPathChar c.name_ne_nil c.isPathChar_of_mem_name
    (fun d hd => (hhead d hd).1) fun _ d hd => (hhead d hd).2

theorem named?_quoted (c : Call) (hq : Text.isQuote q = true)
    (ht : ∀ d ∈ t, Text.isQuote d = false) :
    Predicate.named? c.name (c.inner (Text.quoted q t)) = some (c.predicate t) := by
  have hstrip := Text.stripQuotes_quoted hq t
  have hlink := Predicate.linkArgument_quoted hq ht
  have hnone := Predicate.linkCall?_quoted hq t
  cases c with
  | hasTag =>
    change some (Predicate.hasTag ((Text.splitCommas (Text.quoted q t)).map Text.stripQuotes)) = _
    rw [Text.splitCommas_quoted hq (Text.not_mem_of_isQuote hq ht), List.map_singleton, hstrip]
    rfl
  | inFolder =>
    change some (Predicate.inFolder (Path.trimSlashes (Text.stripQuotes (Text.quoted q t)))) = _
    rw [hstrip]
    rfl
  | hasLink =>
    change some (Predicate.hasLink (Predicate.linkArgument (Text.quoted q t))) = _
    rw [hlink]
    rfl
  | tagsContain =>
    change some (Predicate.hasTag [Text.stripQuotes (Text.quoted q t)]) = _
    rw [hstrip]
    rfl
  | field f hf test =>
    have hname : '(' ∉ Predicate.testName f test :=
      Reference.not_mem_of_isPathChar (Predicate.isPathChar_of_mem_testName f test) (by decide)
    have hlinks := Predicate.linksTo?_call hname hnone
    have hfield := congrArg (fun s => some (Predicate.field f test s)) hstrip
    -- The reader of `….contains(link(…))` comes before those of `name` and `ext`.
    change Predicate.named? (Predicate.testName f test) (Text.quoted q t) = some (.field f test t)
    rw [Predicate.named?, hlinks]
    simp only [List.mem_cons, List.not_mem_nil, or_false] at hf
    rcases hf with rfl | rfl | rfl | rfl <;> cases test <;> exact hfield
  | linksTo k hk =>
    have hcall := Predicate.linkCall?_append (Text.quoted q t)
    have hlinks := Predicate.linksTo?_append hk.isToken hcall
    rw [hlink] at hlinks
    exact Predicate.named?_contains hk.isScoped_file hlinks
  | listLinksTo k hk =>
    have hcall := Predicate.linkCall?_append (Text.quoted q t)
    have hlinks := Predicate.listLinksTo?_append hk.isToken hcall
    have hread : Predicate.listLinksTo? ("list(".toList ++
        ((k ++ ").contains(link(".toList ++ Text.quoted q t ++ [')']) ++ [')'])) =
        some (.linksTo k (Link.target t)) := by
      have hword : ").contains(link(".toList = ')' :: (".contains(".toList ++ "link(".toList) := by
        decide
      rw [← hlink, ← hlinks, hword]
      simp only [List.append_assoc, List.cons_append]
    change Predicate.named? "list" (k ++ ").contains(link(".toList ++ Text.quoted q t ++ [')']) = _
    rw [Predicate.named?, hread]
    rfl

/-- A call with a quoted text in it is evaluated without warnings to what it says of that text. -/
theorem evaluate_text (c : Call) (path markdown : Text) (stat : Stat) (fs : Formulas)
    (hq : Text.isQuote q = true) (ht : ∀ d ∈ t, Text.isQuote d = false) :
    let n := Note.ofMarkdown path markdown stat
    let outcome := Condition.evaluate n fs (c.text (Text.quoted q t))
    outcome.warnings = [] ∧ (outcome.ok = true ↔ c.Holds n fs t) := by
  intro n outcome
  have hout := Text.not_mem_of_isQuote hq ht
  have hparen : '(' ∉ c.name :=
    Reference.not_mem_of_isPathChar c.isPathChar_of_mem_name (by decide)
  have hbracket : c.name.head? ≠ some '[' := fun hhead =>
    Reference.not_mem_of_isPathChar c.isPathChar_of_mem_name (by decide)
      (List.mem_of_mem_head? hhead)
  have hcall : Predicate.call? (c.text (Text.quoted q t)) = some (c.predicate t) := by
    rw [text, Predicate.call?_append hparen c.name_ne_nil hbracket, c.named?_quoted hq ht]
  have hread : Predicate.ofText? (c.text (Text.quoted q t)) = some (c.predicate t) := by
    rw [Predicate.ofText?, hcall]
  have hcondition : Condition.ofText (c.text (Text.quoted q t)) = .predicate (c.predicate t) :=
    Condition.ofText_predicate (c.isWhole_text hq hout) (c.negated?_text _) hread
  have houtcome : outcome = .of ((c.predicate t).holds n fs) := by
    simp only [outcome, Condition.evaluate, hcondition, Condition.outcome]
  rw [houtcome]
  exact ⟨rfl, c.holds_predicate_iff rfl fs t⟩

theorem evaluate_text_folder :
    let n := Note.ofMarkdown "a, (b) or [c]/d.md" [] {}
    let t : Text := "/a, (b) or [c]/"
    Text.isQuote '"' = true ∧ (∀ d ∈ t, Text.isQuote d = false) ∧
      (Condition.evaluate n .empty (inFolder.text (Text.quoted '"' t))).ok = true := by
  intro n t
  have hq : Text.isQuote '"' = true := by decide
  have ht : ∀ d ∈ t, Text.isQuote d = false := fun d hd =>
    Bool.eq_false_iff.mpr (List.any_eq_false.mp rfl d hd)
  have hfolder : Path.trimSlashes t = n.folder := by decide +kernel
  have h := inFolder.evaluate_text "a, (b) or [c]/d.md" [] {} .empty hq ht
  exact ⟨hq, ht, h.2.mpr (.inr (.inl hfolder))⟩

end Call

end NoteVault
