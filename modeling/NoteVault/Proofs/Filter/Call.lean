import NoteVault.Filter.Predicate
import NoteVault.Proofs.Formula.Reference
import NoteVault.Proofs.Text.Affix
import NoteVault.Proofs.Text.Comma

/-! Calls in statements. Which reader takes a call is decided by the name in front of its first
parenthesis, and a quoted argument is not taken apart. -/

namespace NoteVault

theorem Link.target_quoted {q : Char} {t : Text} (hq : Text.isQuote q = true)
    (ht : ∀ c ∈ t, Text.isQuote c = false) : target (Text.quoted q t) = target t := by
  simp only [target, Text.stripQuotes_quoted hq, Text.stripQuotes_eq_trim ht, Text.trim_trim]

namespace Predicate

variable {s name : Text} {p : Predicate}

theorem getLast?_of_between? {lead r : Text} (h : Text.between? lead ")" s = some r) :
    s.getLast? = some ')' := by
  rw [Text.between?_eq_some_iff.mp h]
  exact List.getLast?_concat

theorem getLast?_of_linkCall? {t : Text} (h : linkCall? s = some t) : s.getLast? = some ')' := by
  obtain ⟨r, hr, ht⟩ := Option.bind_eq_some_iff.mp h
  obtain ⟨u, hu, -⟩ := Option.map_eq_some_iff.mp ht
  obtain ⟨v, hv, -⟩ := Option.bind_eq_some_iff.mp hu
  have hstart := Text.after?_eq_some_iff.mp hr
  rw [Text.before?_eq_some_iff.mp hv] at hstart
  have hsuffix : Text.trimStart s <:+ s := List.dropWhile_suffix _
  obtain ⟨l, hl⟩ := hsuffix
  rw [← hl, hstart, ← List.append_assoc, ← List.append_assoc]
  exact List.getLast?_concat

theorem getLast?_of_field? {fields : List FileField} (h : field? fields s = some p) :
    s.getLast? = some ')' := by
  obtain ⟨f, -, hf⟩ := List.exists_of_findSome?_eq_some h
  obtain ⟨test, -, htest⟩ := List.exists_of_findSome?_eq_some hf
  obtain ⟨r, hr, -⟩ := Option.map_eq_some_iff.mp htest
  exact getLast?_of_between? hr

theorem getLast?_of_listLinksTo? (h : listLinksTo? s = some p) : s.getLast? = some ')' := by
  obtain ⟨⟨r, rest⟩, hcut, hrest⟩ := Option.bind_eq_some_iff.mp h
  obtain ⟨u, hu, hcut⟩ := Option.bind_eq_some_iff.mp hcut
  simp only at hrest
  split at hrest
  · obtain ⟨t, ht, -⟩ := Option.map_eq_some_iff.mp hrest
    obtain ⟨v, hv, ht⟩ := Option.bind_eq_some_iff.mp ht
    have hs : s = "list(".toList ++ (r ++ ')' :: (".contains(".toList ++ v)) := by
      rw [← Text.after?_eq_some_iff.mp hv, ← (Text.cut?_eq_some hcut).1]
      exact Text.after?_eq_some_iff.mp hu
    have hlast := getLast?_of_linkCall? ht
    simp [hs, List.getLast?_append, List.getLast?_cons, hlast]
  · contradiction

theorem getLast?_of_linksTo? (h : linksTo? s = some p) : s.getLast? = some ')' := by
  obtain ⟨⟨head, rest⟩, hcut, hrest⟩ := Option.bind_eq_some_iff.mp h
  obtain ⟨r, -, hrest⟩ := Option.bind_eq_some_iff.mp hrest
  split at hrest
  · obtain ⟨t, ht, -⟩ := Option.map_eq_some_iff.mp hrest
    have hlast := getLast?_of_linkCall? ht
    simp [(Text.cut?_eq_some hcut).1, List.getLast?_append, List.getLast?_cons, hlast]
  · contradiction

theorem getLast?_of_call? (h : call? s = some p) : s.getLast? = some ')' := by
  obtain ⟨read, hmem, hread⟩ := List.exists_of_findSome?_eq_some h
  have hbetween : ∀ {lead : Text} {f : Text → Predicate},
      (Text.between? lead ")" s).map f = some p → s.getLast? = some ')' := by
    intro lead f hf
    obtain ⟨r, hr, -⟩ := Option.map_eq_some_iff.mp hf
    exact getLast?_of_between? hr
  simp only [List.mem_cons, List.not_mem_nil, or_false] at hmem
  rcases hmem with rfl | rfl | rfl | rfl | rfl | rfl | rfl | rfl | rfl
  · exact hbetween hread
  · exact hbetween hread
  · exact hbetween hread
  · obtain ⟨sides, hsides, -⟩ := Option.map_eq_some_iff.mp hread
    obtain ⟨r, hr, -⟩ := Option.bind_eq_some_iff.mp hsides
    exact getLast?_of_between? hr
  · exact getLast?_of_field? hread
  · exact hbetween hread
  · exact getLast?_of_listLinksTo? hread
  · exact getLast?_of_linksTo? hread
  · exact getLast?_of_field? hread

theorem map_between?_call (lead : Text) (hlead : '(' ∉ lead) (hname : '(' ∉ name)
    (f : Text → Predicate) (a : Text) :
    (Text.between? (lead ++ ['(']) ")" (name ++ '(' :: (a ++ [')']))).map f =
      if lead = name then some (f a) else none := by
  rw [Text.between?, Text.after?_append_cons lead hlead hname]
  split
  · exact congrArg (Option.map f) (Text.before?_append a [')'])
  · rfl

/-- The name of the test of a field. -/
def testName (f : FileField) (test : TextTest) : Text :=
  "file.".toList ++ f.label ++ '.' :: test.label

theorem isPathChar_of_mem_testName (f : FileField) (test : TextTest) :
    ∀ c ∈ testName f test, Reference.isPathChar c = true := by
  rw [← List.all_eq_true]
  cases f <;> cases test <;> decide

/-- The test of one of some fields, by the name and the argument of a call. -/
def fieldNamed? (fields : List FileField) (name a : Text) : Option Predicate :=
  fields.findSome? fun f =>
    [TextTest.contains, TextTest.startsWith].findSome? fun test =>
      if testName f test = name then some (.field f test (Text.stripQuotes a)) else none

/-- The predicate of a call by the name and the argument, where the argument is not taken apart. -/
def named? (name a : Text) : Option Predicate :=
  [ if "file.hasTag".toList = name then some (.hasTag ((Text.splitCommas a).map Text.stripQuotes))
    else none,
    if "file.inFolder".toList = name then some (.inFolder (Path.trimSlashes (Text.stripQuotes a)))
    else none,
    if "file.hasLink".toList = name then some (.hasLink (linkArgument a)) else none,
    fieldNamed? [.path, .folder] name a,
    if "file.tags.contains".toList = name then some (.hasTag [Text.stripQuotes a]) else none,
    if "list".toList = name then listLinksTo? ("list(" ++ (a ++ [')'])) else none,
    linksTo? (name ++ '(' :: (a ++ [')'])),
    fieldNamed? [.name, .ext] name a ].findSome? id

theorem field?_call (fields : List FileField) (hname : '(' ∉ name) (a : Text) :
    field? fields (name ++ '(' :: (a ++ [')'])) = fieldNamed? fields name a := by
  have hlead : ∀ f test, '(' ∉ testName f test := fun f test =>
    Reference.not_mem_of_isPathChar (isPathChar_of_mem_testName f test) (by decide)
  unfold field? fieldNamed?
  congr 1
  funext f
  congr 1
  funext test
  exact map_between?_call _ (hlead f test) hname _ a

theorem listed?_call (hne : name ≠ []) (hbracket : name.head? ≠ some '[') (rest : Text) :
    listed? (name ++ rest) = none := by
  obtain ⟨c, name, rfl⟩ := List.exists_cons_of_ne_nil hne
  have hc : '[' ≠ c := by
    rintro rfl
    exact hbracket rfl
  have hafter : Text.after? "[" (c :: name ++ rest) = none := if_neg hc
  rw [listed?, Text.between?, hafter]
  rfl

theorem listLinksTo?_call (hname : '(' ∉ name) (a : Text) :
    listLinksTo? (name ++ '(' :: (a ++ [')'])) =
      if "list".toList = name then listLinksTo? ("list(" ++ (a ++ [')'])) else none := by
  split
  · next h =>
    subst h
    rfl
  · next h =>
    have hafter : Text.after? "list(" (name ++ '(' :: (a ++ [')'])) = none := by
      have hlead := Text.after?_append_cons "list" (by decide) hname (a ++ [')'])
      rwa [if_neg h] at hlead
    rw [listLinksTo?, hafter]
    rfl

/-- Which reader takes a call is decided by the name in front of the first parenthesis. -/
theorem call?_append (hname : '(' ∉ name) (hne : name ≠ []) (hbracket : name.head? ≠ some '[')
    (a : Text) : call? (name ++ '(' :: (a ++ [')'])) = named? name a := by
  have hlisted : listed? (name ++ '(' :: (a ++ [')'])) = none := listed?_call hne hbracket _
  have htag : (Text.between? "file.hasTag(" ")" (name ++ '(' :: (a ++ [')']))).map
      (fun t => hasTag ((Text.splitCommas t).map Text.stripQuotes)) = _ :=
    map_between?_call "file.hasTag" (by decide) hname _ a
  have hfolder : (Text.between? "file.inFolder(" ")" (name ++ '(' :: (a ++ [')']))).map
      (fun t => inFolder (Path.trimSlashes (Text.stripQuotes t))) = _ :=
    map_between?_call "file.inFolder" (by decide) hname _ a
  have hlink : (Text.between? "file.hasLink(" ")" (name ++ '(' :: (a ++ [')']))).map
      (fun t => hasLink (linkArgument t)) = _ :=
    map_between?_call "file.hasLink" (by decide) hname _ a
  have htags : (Text.between? "file.tags.contains(" ")" (name ++ '(' :: (a ++ [')']))).map
      (fun t => hasTag [Text.stripQuotes t]) = _ :=
    map_between?_call "file.tags.contains" (by decide) hname _ a
  simp only [call?, named?, List.findSome?_cons, List.findSome?_nil, htag, hfolder, hlink, htags,
    hlisted, field?_call _ hname, listLinksTo?_call hname, id]

/-! ### Links in calls -/

section Link

variable {k t : Text} {q : Char}

theorem ne_contains (hk : Reference.isScoped "file" k = false) {lead : Text}
    (h : (Text.before? ".contains" lead).all (Reference.isScoped "file") = true) :
    lead ≠ k ++ ".contains".toList := by
  rintro rfl
  rw [Text.before?_append, Option.all_some, hk] at h
  contradiction

theorem fieldNamed?_contains (hk : Reference.isScoped "file" k = false) (fields : List FileField)
    (a : Text) : fieldNamed? fields (k ++ ".contains".toList) a = none := by
  have hne : ∀ f test, testName f test ≠ k ++ ".contains".toList := by
    intro f test
    refine ne_contains hk ?_
    cases f <;> cases test <;> decide
  rw [fieldNamed?, List.findSome?_eq_none_iff]
  intro f _
  rw [List.findSome?_eq_none_iff]
  intro test _
  exact if_neg (hne f test)

/-- Of the readers of `….contains(…)` all but one take fields of the file only. -/
theorem named?_contains (hk : Reference.isScoped "file" k = false) {a : Text}
    (h : linksTo? (k ++ ".contains".toList ++ '(' :: (a ++ [')'])) = some p) :
    named? (k ++ ".contains".toList) a = some p := by
  have hne : ∀ lead ∈ ["file.hasTag".toList, "file.inFolder".toList, "file.hasLink".toList,
      "file.tags.contains".toList, "list".toList], lead ≠ k ++ ".contains".toList := by
    intro lead hlead
    refine ne_contains hk ?_
    revert lead
    decide
  simp only [List.forall_mem_cons, List.not_mem_nil, false_implies, implies_true, and_true] at hne
  obtain ⟨htag, hfolder, hlink, htags, hlist⟩ := hne
  rw [named?, if_neg htag, if_neg hfolder, if_neg hlink, fieldNamed?_contains hk, if_neg htags,
    if_neg hlist, h]
  rfl

theorem after?_link_of_isQuote (hq : Text.isQuote q = true) (s : Text) :
    Text.after? "link(" (q :: s) = none := by
  have hne : 'l' ≠ q := by
    rintro rfl
    exact absurd hq (by decide)
  exact if_neg hne

theorem linkArgument_quoted (hq : Text.isQuote q = true) (ht : ∀ c ∈ t, Text.isQuote c = false) :
    linkArgument (Text.quoted q t) = Link.target t := by
  have hbetween : Text.between? "link(" ")" (Text.quoted q t) = none := by
    rw [Text.between?, Text.quoted, after?_link_of_isQuote hq]
    rfl
  have hsplit := Text.splitCommas_quoted hq (Text.not_mem_of_isQuote hq ht)
  simp only [linkArgument, Text.trim_eq_self_iff.mpr (Text.trimmed_quoted hq t), hbetween,
    Option.getD_none, hsplit, List.head?_cons, Option.getD_some]
  exact Link.target_quoted hq ht

theorem linkCall?_append (a : Text) :
    linkCall? ("link(".toList ++ a ++ [')'] ++ [')']) = some (linkArgument a) := by
  have hstart : Text.trimStart ("link(".toList ++ a ++ [')'] ++ [')']) =
      "link(".toList ++ (a ++ [')'] ++ [')']) := by
    rw [List.append_assoc, List.append_assoc, ← List.append_assoc a]
    exact Text.trimStart_eq_self_iff.mpr (by simp [Text.isBlank])
  have hafter := Text.after?_append "link(" (a ++ [')'] ++ [')'])
  have houter : Text.before? ")" (a ++ [')'] ++ [')']) = some (a ++ [')']) :=
    Text.before?_append (a ++ [')']) [')']
  have hend : Text.trimEnd (a ++ [')']) = a ++ [')'] := by
    rw [Text.trimEnd_eq_self_iff, List.getLast?_concat]
    rintro _ ⟨⟩
    decide
  have hinner : Text.before? ")" (a ++ [')']) = some a := Text.before?_append a [')']
  rw [linkCall?, hstart, hafter, Option.bind_some, houter, Option.bind_some, hend, hinner,
    Option.map_some]

theorem linkCall?_quoted (hq : Text.isQuote q = true) (t : Text) :
    linkCall? (Text.quoted q t ++ [')']) = none := by
  have hblank := Text.isBlank_eq_false_of_isQuote hq
  have hstart : Text.trimStart (Text.quoted q t ++ [')']) = Text.quoted q t ++ [')'] :=
    Text.trimStart_eq_self_iff.mpr (by simpa [Text.quoted] using hblank)
  rw [linkCall?, hstart, Text.quoted, List.cons_append, after?_link_of_isQuote hq]
  rfl

theorem linksTo?_call (hname : '(' ∉ name) {rest : Text} (h : linkCall? rest = none) :
    linksTo? (name ++ '(' :: rest) = none := by
  simp only [linksTo?, Text.cut?_append hname, Option.bind_some, h, Option.map_none, ite_self,
    Option.bind_fun_none]

theorem linksTo?_append (hk : Reference.isToken k = true) {rest : Text}
    (h : linkCall? rest = some t) :
    linksTo? (k ++ ".contains".toList ++ '(' :: rest) = some (.linksTo k t) := by
  have hname : '(' ∉ k ++ ".contains".toList := by
    intro hmem
    rcases List.mem_append.mp hmem with hmem | hmem
    · exact Reference.not_mem_of_isPathChar (Reference.isPathChar_of_isToken hk) (by decide) hmem
    · exact absurd hmem (by decide)
  simp only [linksTo?, Text.cut?_append hname, Option.bind_some, Text.before?_append, hk, if_true,
    h, Option.map_some]

theorem listLinksTo?_append (hk : Reference.isToken k = true) {rest : Text}
    (h : linkCall? rest = some t) :
    listLinksTo? ("list(".toList ++ (k ++ ')' :: (".contains(".toList ++ rest))) =
      some (.linksTo k t) := by
  have hclose : ')' ∉ k :=
    Reference.not_mem_of_isPathChar (Reference.isPathChar_of_isToken hk) (by decide)
  rw [listLinksTo?, Text.after?_append, Option.bind_some, Text.cut?_append hclose, Option.bind_some]
  simp only [Text.trim_eq_self_iff.mpr (Reference.trimmed_of_isToken hk), hk, if_true,
    Text.after?_append, Option.bind_some, h, Option.map_some]

end Link

end Predicate

end NoteVault
