import NoteVault.Proofs.Note.Code
import NoteVault.Proofs.Text.Affix
import NoteVault.Proofs.Text.OpenQuote

/-! The targets of links. A target is taken from a text by cutting each part off once, so that the
target of a target need not be the target again. -/

namespace NoteVault

namespace Link

variable {c : Char} {s t : Text}

theorem upTo_of_not_mem (h : c ∉ s) : upTo c s = s := by
  rw [upTo, Text.cut?_eq_none_iff.mpr h]
  rfl

theorem isPrefix_upTo (c : Char) (s : Text) : upTo c s <+: s := by
  unfold upTo
  cases hcut : Text.cut? c s with
  | none => exact List.prefix_rfl
  | some sides =>
    obtain ⟨l, r⟩ := sides
    exact ⟨c :: r, (Text.cut?_eq_some hcut).1.symm⟩

theorem not_mem_upTo (c : Char) (s : Text) : c ∉ upTo c s := by
  unfold upTo
  cases hcut : Text.cut? c s with
  | none => exact Text.cut?_eq_none_iff.mp hcut
  | some sides => exact (Text.cut?_eq_some hcut).2

theorem without_suffix (lead s : Text) : without lead s <:+ s := by
  unfold without
  cases hafter : Text.after? lead s with
  | none => exact List.suffix_rfl
  | some r => exact ⟨lead, (Text.eq_append_of_after? hafter).symm⟩

theorem without_of_not_mem {lead : Text} (h : c ∉ s) : without (c :: lead) s = s := by
  have hnone : Text.after? (c :: lead) s = none := by
    rw [Option.eq_none_iff_forall_not_mem]
    intro r hr
    rw [Text.eq_append_of_after? hr] at h
    exact h List.mem_cons_self
  rw [without, hnone]
  rfl

theorem withoutEnd_of_not_mem {tail : Text} (hc : c ∈ tail) (h : c ∉ s) : withoutEnd tail s = s := by
  have hnone : Text.before? tail s = none := by
    rw [Option.eq_none_iff_forall_not_mem]
    intro r hr
    rw [Text.before?_eq_some_iff.mp hr] at h
    exact h (List.mem_append_right r hc)
  rw [withoutEnd, hnone]
  rfl

/-- A name of a file without `.md` and without blanks at its ends. -/
def bareName (s : Text) : Text :=
  Text.trim (if Text.endsIn ".md" (Text.lower s) then s.take (s.length - 3) else s)

theorem bareName_subset (s : Text) : bareName s ⊆ s := by
  intro c hc
  have hmem := Text.mem_of_mem_trim hc
  split_ifs at hmem
  · exact List.mem_of_mem_take hmem
  · exact hmem

theorem bareName_of_not_endsIn (h : Text.endsIn ".md" (Text.lower s) = false) :
    bareName s = Text.trim s := by
  rw [bareName, h, if_neg Bool.false_ne_true]

theorem length_bareName_lt (h : Text.endsIn ".md" (Text.lower s) = true) :
    (bareName s).length < s.length := by
  obtain ⟨r, hr⟩ := Option.isSome_iff_exists.mp h
  have hlen := congrArg List.length (Text.before?_eq_some_iff.mp hr)
  have htrim := Text.length_trim_le (s.take (s.length - 3))
  rw [bareName, h, if_pos rfl]
  simp only [Text.lower, List.length_map, List.length_append, List.length_take] at hlen htrim
  have hmark : ".md".toList.length = 3 := rfl
  omega

theorem length_bareName_le (s : Text) : (bareName s).length ≤ s.length := by
  cases h : Text.endsIn ".md" (Text.lower s) with
  | false =>
    rw [bareName_of_not_endsIn h]
    exact Text.length_trim_le s
  | true => exact (length_bareName_lt h).le

theorem bareName_append (h : Text.trim s = s) : bareName (s ++ ".md".toList) = s := by
  have hends : Text.endsIn ".md" (Text.lower (s ++ ".md".toList)) = true := by
    have hlower : Text.lower (s ++ ".md".toList) = Text.lower s ++ ".md".toList := by
      simp [Text.lower]
    rw [hlower, Text.endsIn, Text.before?_append]
    rfl
  have hmark : ".md".toList.length = 3 := rfl
  rw [bareName, if_pos hends, List.length_append, hmark, Nat.add_sub_cancel, List.take_left, h]

/-! ### Targets of targets -/

/-- A text without quotes and square brackets. -/
def IsPlain (s : Text) : Prop := ∀ c ∈ s, Text.isQuote c = false ∧ c ≠ '[' ∧ c ≠ ']'

instance (s : Text) : Decidable (IsPlain s) :=
  decidable_of_iff (s.all (fun c => !Text.isQuote c && c != '[' && c != ']') = true)
    (by simp [IsPlain, and_assoc])

theorem IsPlain.mono (h : IsPlain s) (hsub : t ⊆ s) : IsPlain t := fun c hc => h c (hsub hc)

theorem IsPlain.marked (h : IsPlain s) : IsPlain ('!' :: (s ++ ".md".toList)) := by
  have hmark : IsPlain ".md" := by decide
  exact List.forall_mem_cons.mpr ⟨by decide, List.forall_mem_append.mpr ⟨h, hmark⟩⟩

theorem IsPlain.isQuote (h : IsPlain s) : ∀ c ∈ s, Text.isQuote c = false := fun c hc => (h c hc).1

/-- A text as it may be left of a link: nothing in it but the marks at its ends is cut off once
more. -/
structure IsTarget (s : Text) : Prop where
  plain : IsPlain s
  label : '|' ∉ s
  heading : '#' ∉ s
  trimmed : Text.trim s = s

theorem target_eq (s : Text) : ∃ r, target s = bareName (Text.trim (upTo '#' (upTo '|' r))) :=
  ⟨withoutEnd "]]" (without "[[" (without "!" (Text.trim (Text.stripQuotes s)))), rfl⟩

theorem isTarget_target (h : IsPlain (target s)) : IsTarget (target s) := by
  obtain ⟨r, hr⟩ := target_eq s
  have hsub : target s ⊆ upTo '#' (upTo '|' r) := by
    rw [hr]
    exact fun c hc => Text.mem_of_mem_trim (bareName_subset _ hc)
  refine ⟨h, fun hbar => ?_, fun hmark => not_mem_upTo '#' _ (hsub hmark), ?_⟩
  · exact not_mem_upTo '|' r ((isPrefix_upTo '#' _).subset (hsub hbar))
  · rw [hr, bareName, Text.trim_trim]

theorem target_of_isPlain (h : IsPlain s) :
    target s = bareName (Text.trim (upTo '#' (upTo '|' (without "!" (Text.trim s))))) := by
  have hsub : without "!" (Text.trim s) ⊆ s := fun c hc =>
    Text.mem_of_mem_trim ((without_suffix _ _).subset hc)
  have hopen : '[' ∉ without "!" (Text.trim s) := fun hc => (h '[' (hsub hc)).2.1 rfl
  have hclose : ']' ∉ without "!" (Text.trim s) := fun hc => (h ']' (hsub hc)).2.2 rfl
  have hlead : without "[[" (without "!" (Text.trim s)) = without "!" (Text.trim s) :=
    without_of_not_mem hopen
  have htail : withoutEnd "]]" (without "!" (Text.trim s)) = without "!" (Text.trim s) :=
    withoutEnd_of_not_mem (by decide) hclose
  unfold target
  simp only [Text.stripQuotes_eq_trim h.isQuote, Text.trim_trim, hlead, htail]
  rfl

theorem target_subset (h : IsPlain s) : target s ⊆ s := by
  rw [target_of_isPlain h]
  intro c hc
  have hbar := (isPrefix_upTo '#' _).subset (Text.mem_of_mem_trim (bareName_subset _ hc))
  exact Text.mem_of_mem_trim ((without_suffix _ _).subset ((isPrefix_upTo '|' _).subset hbar))

theorem isPlain_target (h : IsPlain s) : IsPlain (target s) := h.mono (target_subset h)

theorem target_of_isTarget (h : IsTarget s) : target s = bareName (Text.trim (without "!" s)) := by
  have hsub := (without_suffix "!" s).subset
  rw [target_of_isPlain h.plain, h.trimmed, upTo_of_not_mem fun hc => h.label (hsub hc),
    upTo_of_not_mem fun hc => h.heading (hsub hc)]

/-- A text without the marks that are cut off a target at its ends: neither `!` in front nor `.md`
behind. -/
def IsSettled (s : Text) : Prop :=
  Text.beginsWith "!" s = false ∧ Text.endsIn ".md" (Text.lower s) = false

instance (s : Text) : Decidable (IsSettled s) := inferInstanceAs (Decidable (_ ∧ _))

theorem target_eq_self_iff (h : IsTarget s) : target s = s ↔ IsSettled s := by
  rw [target_of_isTarget h]
  cases hafter : Text.after? "!" s with
  | none =>
    have hwithout : without "!" s = s := by rw [without, hafter, Option.getD_none]
    have hfront : Text.beginsWith "!" s = false := by rw [Text.beginsWith, hafter, Option.isSome_none]
    rw [hwithout, h.trimmed]
    refine ⟨fun heq => ⟨hfront, ?_⟩, fun hs => ?_⟩
    · rw [Bool.eq_false_iff]
      intro hends
      have hlt := length_bareName_lt hends
      rw [heq] at hlt
      exact lt_irrefl _ hlt
    · rw [bareName_of_not_endsIn hs.2, h.trimmed]
  | some r =>
    have hwithout : without "!" s = r := by rw [without, hafter, Option.getD_some]
    have hlen := congrArg List.length (Text.eq_append_of_after? hafter)
    rw [hwithout]
    refine ⟨fun heq => ?_, fun hs => ?_⟩
    · have hname := (length_bareName_le (Text.trim r)).trans (Text.length_trim_le r)
      have hmark : "!".toList.length = 1 := rfl
      rw [heq] at hname
      rw [List.length_append] at hlen
      omega
    · have hfront := hs.1
      rw [Text.beginsWith, hafter] at hfront
      contradiction

theorem target_target_iff (h : IsPlain s) : target (target s) = target s ↔ IsSettled (target s) :=
  target_eq_self_iff (isTarget_target (isPlain_target h))

/-- Each text that can be left of a link is left of one with both of the marks. -/
theorem target_mark (h : IsTarget s) : target ('!' :: (s ++ ".md".toList)) = s := by
  have hplain : IsPlain ('!' :: (s ++ ".md".toList)) := h.plain.marked
  have htrim : Text.trim ('!' :: (s ++ ".md".toList)) = '!' :: (s ++ ".md".toList) :=
    Text.trim_eq_self_iff.mpr ⟨by simp [Text.isBlank], by simp [List.getLast?_cons, Text.isBlank]⟩
  have hname : Text.trim (s ++ ".md".toList) = s ++ ".md".toList := by
    have hends := Text.trim_eq_self_iff.mp h.trimmed
    rw [Text.trim_eq_self_iff]
    refine ⟨?_, by simp [Text.isBlank]⟩
    cases s with
    | nil => simp [Text.isBlank]
    | cons c s => simpa using hends.1
  have hbar : '|' ∉ s ++ ".md".toList := by simp [h.label]
  have hmark : '#' ∉ s ++ ".md".toList := by simp [h.heading]
  rw [target_of_isPlain hplain, htrim]
  change bareName (Text.trim (upTo '#' (upTo '|' (s ++ ".md".toList)))) = s
  rw [upTo_of_not_mem hbar, upTo_of_not_mem hmark, hname, bareName_append h.trimmed]

/-! ### Links in a body -/

/-- The texts of the links that are written in a text, as they stand. -/
def written (s : Text) : List Text :=
  wikiTargets s ++ (fileTargets s).map (Text.replace "%20" [' '])

theorem wikiLink?_of_ne (h : c ≠ '[') (s : Text) : wikiLink? (c :: s) = none := by
  unfold wikiLink?
  split
  · next heq => exact absurd (List.cons.inj heq).1 h
  · rfl

theorem fileLink?_of_ne (h : c ≠ '[') (s : Text) : fileLink? (c :: s) = none := by
  unfold fileLink?
  split
  · next heq => exact absurd (List.cons.inj heq).1 h
  · rfl

section Brackets

variable (ht : ∀ c ∈ t, c ≠ '[' ∧ c ≠ ']') (s : Text)

include ht

theorem wikiLink?_brackets (hne : t ≠ []) :
    wikiLink? ('[' :: '[' :: (t ++ ']' :: ']' :: s)) = some (t, s) := by
  have hinner : ∀ c ∈ t, (c != '[' && c != ']') = true := fun c hc => by simp [ht c hc]
  have htake : (t ++ ']' :: ']' :: s).takeWhile (fun c => c != '[' && c != ']') = t := by
    rw [List.takeWhile_append_of_pos hinner]
    simp
  have hdrop : (t ++ ']' :: ']' :: s).dropWhile (fun c => c != '[' && c != ']') = ']' :: ']' :: s := by
    rw [List.dropWhile_append_of_pos hinner]
    simp
  obtain ⟨c, inner, rfl⟩ := List.exists_cons_of_ne_nil hne
  simp only [wikiLink?, htake, hdrop]

/-- Behind the first closing bracket a link to a file needs a parenthesis. -/
theorem fileLink?_brackets (lead : Text) (hlead : ']' ∉ lead) :
    fileLink? ('[' :: (lead ++ t ++ ']' :: ']' :: s)) = none := by
  have hinner : ∀ c ∈ lead ++ t, (c != ']') = true := by
    intro c hc
    rcases List.mem_append.mp hc with hc | hc
    · have hne : c ≠ ']' := by
        rintro rfl
        exact hlead hc
      simpa using hne
    · simpa using (ht c hc).2
  have hdrop : (lead ++ t ++ ']' :: ']' :: s).dropWhile (fun c => c != ']') = ']' :: ']' :: s := by
    rw [List.dropWhile_append_of_pos hinner]
    simp
  simp only [fileLink?, hdrop]
  rfl

theorem fileTargets_brackets :
    fileTargets ('[' :: '[' :: (t ++ ']' :: ']' :: s)) = fileTargets s := by
  have hfirst : fileLink? ('[' :: '[' :: (t ++ ']' :: ']' :: s)) = none :=
    fileLink?_brackets ht s ['['] (by decide)
  have hsecond : fileLink? ('[' :: (t ++ ']' :: ']' :: s)) = none := fileLink?_brackets ht s [] (by simp)
  have hrest : Text.scan fileLink? ((t ++ [']', ']']) ++ s) = Text.scan fileLink? s := by
    refine Text.scan_append_of_none fun l c r hs => fileLink?_of_ne ?_ _
    have hc : c ∈ t ++ [']', ']'] := by simp [hs]
    rcases List.mem_append.mp hc with hc | hc
    · exact (ht c hc).1
    · rintro rfl
      exact absurd hc (by decide)
  rw [fileTargets, Text.scan_cons_of_none hfirst, Text.scan_cons_of_none hsecond, fileTargets, ← hrest]
  simp

theorem wikiTargets_brackets (hne : t ≠ []) :
    wikiTargets ('[' :: '[' :: (t ++ ']' :: ']' :: s)) = t :: wikiTargets s := by
  refine Text.scan_cons_of_some (wikiLink?_brackets ht s hne) ?_
  simp only [List.length_cons, List.length_append]
  omega

/-- A link behind a text without brackets is the first one. -/
theorem written_append (hne : t ≠ []) {p : Text} (hp : '[' ∉ p) :
    written (p ++ "[[".toList ++ t ++ "]]".toList ++ s) = t :: written s := by
  have htext : p ++ "[[".toList ++ t ++ "]]".toList ++ s =
      p ++ '[' :: '[' :: (t ++ ']' :: ']' :: s) := by simp
  have hfront : ∀ l c r, p = l ++ c :: r → c ≠ '[' := by
    rintro l c r rfl rfl
    exact hp (by simp)
  have hwiki := wikiTargets_brackets ht s hne
  have hfile := fileTargets_brackets ht s
  have hskipWiki : wikiTargets (p ++ '[' :: '[' :: (t ++ ']' :: ']' :: s)) = t :: wikiTargets s := by
    rw [wikiTargets, Text.scan_append_of_none fun l c r h => wikiLink?_of_ne (hfront l c r h) _]
    exact hwiki
  have hskipFile : fileTargets (p ++ '[' :: '[' :: (t ++ ']' :: ']' :: s)) = fileTargets s := by
    rw [fileTargets, Text.scan_append_of_none fun l c r h => fileLink?_of_ne (hfront l c r h) _]
    exact hfile
  rw [htext, written, hskipWiki, hskipFile]
  rfl

end Brackets

end Link

theorem Fence.split_of_fst_eq_none {s : Text} (h : (split s).1 = none) : split s = (none, s) := by
  unfold split at h ⊢
  split at h
  · rfl
  · split at h
    · contradiction
    · contradiction
    · rfl

namespace Note

theorem mem_distinct {t : Text} {ts : List Text} : t ∈ distinct ts ↔ t ∈ ts ∧ t ≠ [] := by
  have hfold : ∀ done : List Text,
      t ∈ ts.foldl (fun done t => if t.isEmpty || done.contains t then done else done ++ [t]) done ↔
        t ∈ done ∨ t ∈ ts ∧ t ≠ [] := by
    induction ts with
    | nil => simp
    | cons u us ih =>
      intro done
      rw [List.foldl_cons, ih]
      by_cases hskip : u = [] ∨ u ∈ done
      · rw [if_pos (by simpa using hskip)]
        have hhead : t = u → t ≠ [] → t ∈ done := by
          rintro rfl hne
          exact hskip.resolve_left hne
        rw [List.mem_cons]
        tauto
      · rw [if_neg (by simpa using hskip)]
        have hhead : t = u → t ≠ [] := by
          rintro rfl hnil
          exact hskip (.inl hnil)
        rw [List.mem_append, List.mem_singleton, List.mem_cons]
        tauto
  simpa [distinct] using hfold []

/-- A note without metadata and code has the links that are written in it. -/
theorem links_ofMarkdown {markdown : Text} (hblock : (Fence.split markdown).1 = none)
    (hcode : '`' ∉ markdown) (path : Text) (stat : Stat) :
    (ofMarkdown path markdown stat).links =
      distinct ((Link.written markdown).map Link.target) := by
  have hmeta : Frontmatter.ofMarkdown markdown = .empty := by
    rw [Frontmatter.ofMarkdown, hblock]
    rfl
  change linksOf (Frontmatter.ofMarkdown markdown) (Fence.split markdown).2 = _
  rw [hmeta, Fence.split_of_fst_eq_none hblock, linksOf, Code.blankOut_eq_self hcode]
  rfl

end Note

end NoteVault
