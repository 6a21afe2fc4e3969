import NoteVault.Proofs.Filter.Argument
import NoteVault.Proofs.Note.Link

/-! Which links a statement finds in a note. The links of a note are targets already, and the test takes
the target of each of them once more, but that of its argument only once. -/

namespace NoteVault

variable {q : Char} {t : Text}

/-- A text that can stand between quotes as the argument of a test for a link. -/
structure Link.IsArgument (u : Text) : Prop where
  plain : IsPlain u
  comma : ',' ∉ u

theorem Call.ok_hasLink_iff (n : Note) (fs : Formulas) (hq : Text.isQuote q = true)
    (ht : ∀ d ∈ t, Text.isQuote d = false) :
    (Condition.evaluate n fs (hasLink.text (Text.quoted q t))).ok = true ↔
      ∃ link ∈ n.links, Link.target link = Link.target t := by
  have hcall : Predicate.call? (hasLink.text (Text.quoted q t)) = some (hasLink.predicate t) := by
    rw [text, Predicate.call?_append (by decide) hasLink.name_ne_nil (by decide),
      hasLink.named?_quoted hq ht]
  have hread : Predicate.ofText? (hasLink.text (Text.quoted q t)) = some (hasLink.predicate t) := by
    rw [Predicate.ofText?, hcall]
  have hwhole := hasLink.isWhole_text hq (Text.not_mem_of_isQuote hq ht)
  rw [Condition.evaluate, Condition.ofText_predicate hwhole (hasLink.negated?_text _) hread,
    Condition.outcome]
  simp [predicate, Predicate.holds, Outcome.of]

namespace Note

/-- Whether the test for links finds a text in a note, and no text with a target that is not a link of
the note. -/
structure FindsLink (n : Note) (fs : Formulas) (q : Char) (t : Text) : Prop where
  found : (Condition.evaluate n fs (Call.hasLink.text (Text.quoted q t))).ok = true
  only : ∀ u, Link.IsArgument u → Link.target u ∉ n.links →
    (Condition.evaluate n fs (Call.hasLink.text (Text.quoted q u))).ok = false

/-- No text is found by mistake exactly if the target of a link is a link of the note, too. -/
theorem finds_only_links_iff (n : Note) (fs : Formulas) (hq : Text.isQuote q = true) :
    (∀ u, Link.IsArgument u → Link.target u ∉ n.links →
        (Condition.evaluate n fs (Call.hasLink.text (Text.quoted q u))).ok = false) ↔
      ∀ l ∈ n.links, Link.IsArgument (Link.target l) → Link.target l ∈ n.links := by
  constructor
  · intro honly l hl hargument
    by_contra hmissing
    -- Both of the marks around the target of the link are cut off again.
    have hmark := Link.target_mark (Link.isTarget_target hargument.plain)
    have hmarked : Link.IsArgument ('!' :: (Link.target l ++ ".md".toList)) :=
      ⟨hargument.plain.marked, by simpa using hargument.comma⟩
    have hnot := honly _ hmarked (by rwa [hmark])
    have hfound := (Call.ok_hasLink_iff n fs hq hmarked.plain.isQuote).mpr ⟨l, hl, hmark.symm⟩
    exact Bool.false_ne_true (hnot.symm.trans hfound)
  · intro hlinks u hu hmissing
    rw [Bool.eq_false_iff]
    intro hfound
    obtain ⟨l, hl, hsame⟩ := (Call.ok_hasLink_iff n fs hq hu.plain.isQuote).mp hfound
    have hargument : Link.IsArgument (Link.target u) :=
      ⟨Link.isPlain_target hu.plain, fun hcomma => hu.comma (Link.target_subset hu.plain hcomma)⟩
    rw [← hsame] at hargument hmissing
    exact hmissing (hlinks l hl hargument)

theorem found_link_iff {n : Note} {rest : List Text} (hq : Text.isQuote q = true)
    (ht : Link.IsPlain t) (hne : Link.target t ≠ [])
    (hlinks : n.links = distinct ((t :: rest).map Link.target)) (fs : Formulas) :
    (Condition.evaluate n fs (Call.hasLink.text (Text.quoted q t))).ok = true ↔
      Link.IsSettled (Link.target t) ∨
        ∃ l ∈ rest, Link.target (Link.target l) = Link.target t := by
  rw [Call.ok_hasLink_iff n fs hq ht.isQuote, hlinks, ← Link.target_target_iff ht]
  simp only [mem_distinct, List.mem_map, List.mem_cons]
  constructor
  · rintro ⟨_, ⟨⟨l, rfl | hl, rfl⟩, -⟩, hsame⟩
    · exact .inl hsame
    · exact .inr ⟨l, hl, hsame⟩
  · rintro (hsame | ⟨l, hl, hsame⟩)
    · exact ⟨_, ⟨⟨t, .inl rfl, rfl⟩, hne⟩, hsame⟩
    · refine ⟨_, ⟨⟨l, .inr hl, rfl⟩, fun hnil => hne ?_⟩, hsame⟩
      rw [← hsame, hnil]
      rfl

/-- The first link of a body is found exactly if nothing more can be cut off its target, or another
link is taken for it; and nothing else is found exactly if the target of each link is a link. -/
theorem findsLink_iff (fs : Formulas) (path : Text) (stat : Stat) {p s : Text}
    (hq : Text.isQuote q = true)
    (hblock : (Fence.split (p ++ "[[".toList ++ t ++ "]]".toList ++ s)).1 = none)
    (hp : '[' ∉ p ∧ '`' ∉ p) (hs : '`' ∉ s) (ht : Link.IsPlain t ∧ '`' ∉ t)
    (hne : Link.target t ≠ []) :
    let n := ofMarkdown path (p ++ "[[".toList ++ t ++ "]]".toList ++ s) stat
    n.FindsLink fs q t ↔
      (Link.IsSettled (Link.target t) ∨
        ∃ l ∈ Link.written s, Link.target (Link.target l) = Link.target t) ∧
      ∀ l ∈ n.links, Link.IsArgument (Link.target l) → Link.target l ∈ n.links := by
  intro n
  have hcode : '`' ∉ p ++ "[[".toList ++ t ++ "]]".toList ++ s := by
    simp [hp.2, ht.2, hs]
  have htnil : t ≠ [] := by
    rintro rfl
    exact hne rfl
  have hlinks : n.links = distinct ((t :: Link.written s).map Link.target) := by
    rw [← Link.written_append (fun c hc => (ht.1 c hc).2) s htnil hp.1]
    exact links_ofMarkdown hblock hcode path stat
  have hfound := found_link_iff hq ht.1 hne hlinks fs
  have honly := n.finds_only_links_iff fs hq
  exact ⟨fun h => ⟨hfound.mp h.found, honly.mp h.only⟩,
    fun h => ⟨hfound.mpr h.1, honly.mpr h.2⟩⟩

theorem findsLink_iff_alpha :
    let p : Text := "See "
    let t : Text := "Alpha.md#Intro|the first"
    let s : Text := " and [b](Beta%20B.md)."
    let n := ofMarkdown "N.md" (p ++ "[[".toList ++ t ++ "]]".toList ++ s) {}
    n.links = ["Alpha".toList, "Beta B".toList] ∧ n.FindsLink .empty '\'' t := by
  intro p t s n
  have hlinks : n.links = ["Alpha".toList, "Beta B".toList] := by decide +kernel
  have hblock : (Fence.split (p ++ "[[".toList ++ t ++ "]]".toList ++ s)).1 = none := by
    decide +kernel
  refine ⟨hlinks, (findsLink_iff .empty "N.md" {} (by decide) hblock (by decide) (by decide)
    (by decide) (by decide)).mpr ⟨.inl (by decide), ?_⟩⟩
  have htargets : ∀ l ∈ ["Alpha".toList, "Beta B".toList],
      Link.target l ∈ ["Alpha".toList, "Beta B".toList] := by decide
  rw [← hlinks] at htargets
  exact fun l hl _ => htargets l hl

/-- A link to a file with two extensions is listed with one, and compared with none. -/
theorem not_findsLink_twoExtensions :
    let n := ofMarkdown "N.md" "[[a.md.md]]" {}
    (Fence.split "[[a.md.md]]").1 = none ∧ n.links = [Link.target "a.md.md"] ∧
      Link.target "a" ∉ n.links ∧
      (Condition.evaluate n .empty "file.hasLink('a.md.md')").ok = false ∧
      (Condition.evaluate n .empty "file.hasLink('a')").ok = true := by
  intro n
  have hlinks : n.links = [Link.target "a.md.md"] := by decide +kernel
  have hlong : Link.IsPlain "a.md.md" := by decide
  have hshort : Link.IsPlain "a" := by decide
  refine ⟨by decide +kernel, hlinks, by rw [hlinks]; decide, ?_, ?_⟩
  · rw [Bool.eq_false_iff]
    intro hfound
    obtain ⟨l, hl, hsame⟩ :=
      (Call.ok_hasLink_iff (q := '\'') n .empty (by decide) hlong.isQuote).mp hfound
    rw [hlinks, List.mem_singleton] at hl
    subst hl
    exact absurd hsame (by decide)
  · refine (Call.ok_hasLink_iff (q := '\'') n .empty (by decide) hshort.isQuote).mpr
      ⟨Link.target "a.md.md", by rw [hlinks]; exact List.mem_cons_self, by decide⟩

end Note

end NoteVault
