import NoteVault.Proofs.Note.FenceLine

/-! Frontmatter read line by line. The first closing line ends the block, except that one directly
behind the opening line is passed over if another one comes later. -/

namespace NoteVault.Fence

open Text (lineEnds lines withoutLineEnd)

/-- The lines in front of the first closing one, and those behind it. -/
def untilFence? : List Text → Option (List Text × List Text)
  | [] => none
  | l :: ls =>
    if isClosing l then some ([], ls)
    else (untilFence? ls).map fun (block, body) => (l :: block, body)

/-- The text in front of the first closing line behind the first line, and the text behind it. -/
def untilLater? : List Text → Option (Text × Text)
  | [] => none
  | l :: ls => (untilFence? ls).map fun (block, body) =>
    (withoutLineEnd (l ++ block.flatten), body.flatten)

/-- The text between the opening line and the first closing line, and the text behind that. -/
def firstFence (s : Text) : Option Text × Text :=
  match lines s with
  | [] => (none, s)
  | first :: rest =>
    match isOpening first, untilFence? rest with
    | true, some (block, body) => (some (withoutLineEnd block.flatten), body.flatten)
    | _, _ => (none, s)

/-- A closing line stands directly behind the opening one, and another one comes later. -/
def ClosedTwice (s : Text) : Prop :=
  ∃ first fence rest, lines s = first :: fence :: rest ∧ isOpening first = true ∧
    isClosing fence = true ∧ ∃ l ∈ rest, isClosing l = true

theorem untilFence?_cons {l : Text} (h : isClosing l = false) (ls : List Text) :
    untilFence? (l :: ls) = (untilFence? ls).map fun (block, body) => (l :: block, body) := by
  rw [untilFence?, h]
  rfl

theorem untilFence?_of_closed? {r body : Text} (h : closed? r = some body) :
    untilFence? (lines r) = some ([], lines body) := by
  obtain ⟨l, hl, hr⟩ := closed?_eq_some_iff.mp h
  rw [hr, untilFence?, if_pos hl]

theorem not_isClosing_of_not_closed? {r l : Text} {ls : List Text} (h : closed? r = none)
    (hr : lines r = l :: ls) : isClosing l = false := by
  rw [Bool.eq_false_iff]
  intro hl
  have hclosed : closed? r = some ls.flatten := by
    rw [closed?_eq_some_iff]
    exact ⟨l, hl, by rw [hr, Text.lines_flatten_tail hr]⟩
  rw [h] at hclosed
  contradiction

theorem untilLater?_lineEnd {e r : Text} (he : e ∈ lineEnds) (h : closed? r = none) :
    untilLater? (e :: lines r) =
      (untilLater? (lines r)).map fun (block, body) => (e ++ block, body) := by
  cases hr : lines r with
  | nil => rfl
  | cons l ls =>
    have hl := Text.first_ne_nil_of_lines hr
    rw [untilLater?, untilLater?, untilFence?_cons (not_isClosing_of_not_closed? h hr)]
    rw [Option.map_map, Option.map_map]
    congr 1
    funext x
    have hwithout := Text.withoutLineEnd_append (s := l ++ x.1.flatten) he (by simp [hl])
    simp [hwithout]

theorem untilLater?_cons {c : Char} {s : Text} (h : afterLineEnd? (c :: s) = none) :
    untilLater? (lines (c :: s)) =
      (untilLater? (lines s)).map fun (block, body) => (c :: block, body) := by
  have hc : c ≠ '\n' := by
    rintro rfl
    contradiction
  cases hs : lines s with
  | nil =>
    rw [Text.lines, if_neg hc, hs]
    rfl
  | cons l ls =>
    have hl := Text.first_ne_nil_of_lines hs
    have hs' := Text.eq_append_of_lines hs
    rw [Text.lines_cons_of_eq hc hs, untilLater?, untilLater?, Option.map_map]
    congr 1
    funext x
    have hwithout : withoutLineEnd (c :: (l ++ x.1.flatten)) =
        c :: withoutLineEnd (l ++ x.1.flatten) := by
      refine Text.withoutLineEnd_cons (by simp [hl]) ?_
      rintro rfl hx
      obtain ⟨d, t, rfl⟩ := List.exists_cons_of_ne_nil hl
      obtain ⟨rfl, -⟩ := List.cons.inj hx
      rw [hs'] at h
      contradiction
    simp [hwithout]

theorem untilClosed?_of_closed {s body : Text} (h : (afterLineEnd? s).bind closed? = some body) :
    untilClosed? s = some ([], body) := by
  unfold untilClosed?
  rw [h]

theorem untilClosed?_cons {c : Char} {s : Text}
    (h : (afterLineEnd? (c :: s)).bind closed? = none) :
    untilClosed? (c :: s) = (untilClosed? s).map fun (block, body) => (c :: block, body) := by
  rw [untilClosed?, h]

theorem untilClosed?_eq (s : Text) : untilClosed? s = untilLater? (lines s) := by
  induction s with
  | nil => rfl
  | cons c s ih =>
    cases hend : afterLineEnd? (c :: s) with
    | none =>
      rw [untilClosed?_cons (by rw [hend]; rfl), untilLater?_cons hend, ih]
    | some r =>
      obtain ⟨e, he, hs⟩ := afterLineEnd?_eq_some_iff.mp hend
      cases hr : closed? r with
      | some body =>
        rw [untilClosed?_of_closed (by rw [hend]; exact hr), hs, Text.lines_lineEnd he, untilLater?]
        simp [untilFence?_of_closed? hr, Text.withoutLineEnd_lineEnd he, Text.flatten_lines]
      | none =>
        rw [untilClosed?_cons (by rw [hend]; exact hr), hs, Text.lines_lineEnd he]
        rw [untilLater?_lineEnd he hr, ih]
        -- The scan meets `\r\n` twice, at its first and at its second character.
        rcases Text.mem_lineEnds.mp he with rfl | rfl
        · obtain ⟨rfl, rfl⟩ := List.cons.inj hs
          rfl
        · obtain ⟨rfl, rfl⟩ := List.cons.inj hs
          have hnewline := untilLater?_lineEnd (e := ['\n']) (by decide) hr
          rw [← Text.lines_newline] at hnewline
          change (untilLater? (lines ('\n' :: r))).map _ = _
          rw [hnewline, Option.map_map]
          rfl

theorem untilFence?_eq_some {ls block body : List Text} (h : untilFence? ls = some (block, body)) :
    (∀ l ∈ block, isClosing l = false) ∧ ∃ f, isClosing f = true ∧ ls = block ++ f :: body := by
  induction ls generalizing block with
  | nil => contradiction
  | cons l ls ih =>
    by_cases hl : isClosing l = true
    · rw [untilFence?, if_pos hl] at h
      obtain ⟨rfl, rfl⟩ := Prod.mk.inj (Option.some.inj h)
      exact ⟨by simp, l, hl, rfl⟩
    · rw [Bool.not_eq_true] at hl
      rw [untilFence?_cons hl, Option.map_eq_some_iff] at h
      obtain ⟨⟨block', body'⟩, hrest, hpair⟩ := h
      obtain ⟨rfl, rfl⟩ := Prod.mk.inj hpair
      obtain ⟨hblock, f, hf, rfl⟩ := ih hrest
      refine ⟨?_, f, hf, rfl⟩
      intro m hm
      rcases List.mem_cons.mp hm with rfl | hm
      · exact hl
      · exact hblock m hm

theorem untilFence?_eq_none_iff {ls : List Text} :
    untilFence? ls = none ↔ ∀ l ∈ ls, isClosing l = false := by
  induction ls with
  | nil => simp [untilFence?]
  | cons l ls ih =>
    cases hl : isClosing l with
    | true => simp [untilFence?, hl]
    | false => simp [untilFence?, hl, ih]

section Split

variable {s first fence : Text} {rest : List Text}

theorem split_of_not_opening (h : ∀ l ls, lines s = l :: ls → isOpening l = false) :
    split s = (none, s) := by
  cases hopened : opened? s with
  | none => rw [split, hopened]
  | some r =>
    obtain ⟨l, hl, hs⟩ := opened?_eq_some_iff.mp hopened
    rw [h l _ hs] at hl
    contradiction

theorem opened?_of_lines (hs : lines s = first :: rest) (h : isOpening first = true) :
    opened? s = some rest.flatten := by
  rw [opened?_eq_some_iff]
  exact ⟨first, h, by rw [hs, Text.lines_flatten_tail hs]⟩

theorem split_of_later (hs : lines s = first :: rest) (h : isOpening first = true)
    {block body : Text} (hlater : untilLater? rest = some (block, body)) :
    split s = (some block, body) := by
  rw [split, opened?_of_lines hs h]
  simp only [untilClosed?_eq, Text.lines_flatten_tail hs, hlater]

theorem split_of_not_later (hs : lines s = first :: rest) (h : isOpening first = true)
    (hlater : untilLater? rest = none) :
    split s = ((closed? rest.flatten).map fun body => (some [], body)).getD (none, s) := by
  rw [split, opened?_of_lines hs h]
  simp only [untilClosed?_eq, Text.lines_flatten_tail hs, hlater]
  cases closed? rest.flatten with
  | none => rfl
  | some body => rfl

theorem firstFence_of_not_opening (hs : lines s = first :: rest)
    (h : isOpening first = false) : firstFence s = (none, s) := by
  simp only [firstFence, hs, h]

theorem firstFence_of_closed (hs : lines s = first :: rest) (h : isOpening first = true)
    {block body : List Text} (hrest : untilFence? rest = some (block, body)) :
    firstFence s = (some (withoutLineEnd block.flatten), body.flatten) := by
  simp only [firstFence, hs, h, hrest]

theorem firstFence_of_not_closed (hs : lines s = first :: rest)
    (hrest : untilFence? rest = none) : firstFence s = (none, s) := by
  simp only [firstFence, hs, hrest]
  cases isOpening first with
  | true => rfl
  | false => rfl

/-- The line behind the opening one belongs to the block if a closing line comes later. -/
theorem split_of_later_fence (hs : lines s = first :: fence :: rest)
    (h : isOpening first = true) {block body : List Text}
    (hrest : untilFence? rest = some (block, body)) :
    split s = (some (withoutLineEnd (fence ++ block.flatten)), body.flatten) := by
  refine split_of_later hs h ?_
  rw [untilLater?, hrest]
  rfl

theorem split_of_direct_fence (hs : lines s = first :: fence :: rest)
    (h : isOpening first = true) (hclose : isClosing fence = true)
    (hrest : untilFence? rest = none) : split s = (some [], rest.flatten) := by
  have htail := Text.lines_flatten_tail hs
  have hlater : untilLater? (fence :: rest) = none := by
    rw [untilLater?, hrest]
    rfl
  have hclosed : closed? (fence :: rest).flatten = some rest.flatten := by
    rw [closed?_eq_some_iff]
    exact ⟨fence, hclose, by rw [htail, Text.lines_flatten_tail htail]⟩
  rw [split_of_not_later hs h hlater, hclosed]
  rfl

theorem split_of_no_fence (hs : lines s = first :: rest) (h : isOpening first = true)
    (hrest : ∀ l ∈ rest, isClosing l = false) : split s = (none, s) := by
  have htail := Text.lines_flatten_tail hs
  have hlater : untilLater? rest = none := by
    cases rest with
    | nil => rfl
    | cons l ls =>
      have hls := untilFence?_eq_none_iff.mpr fun m hm => hrest m (List.mem_cons_of_mem l hm)
      rw [untilLater?, hls]
      rfl
  have hclosed : closed? rest.flatten = none := by
    rw [Option.eq_none_iff_forall_not_mem]
    intro body hbody
    obtain ⟨l, hl, hlines⟩ := closed?_eq_some_iff.mp hbody
    rw [htail] at hlines
    rw [hrest l (by simp [hlines])] at hl
    contradiction
  rw [split_of_not_later hs h hlater, hclosed]
  rfl

theorem split_of_not_closedTwice (h : ¬ ClosedTwice s) : split s = firstFence s := by
  cases hs : lines s with
  | nil => rw [split_of_not_opening (by simp [hs]), firstFence, hs]
  | cons first rest =>
    cases hopen : isOpening first with
    | false =>
      rw [firstFence_of_not_opening hs hopen]
      refine split_of_not_opening ?_
      intro l ls hl
      rw [hs] at hl
      rw [← (List.cons.inj hl).1]
      exact hopen
    | true =>
      cases hrest : untilFence? rest with
      | none =>
        rw [firstFence_of_not_closed hs hrest]
        exact split_of_no_fence hs hopen (untilFence?_eq_none_iff.mp hrest)
      | some later =>
        obtain ⟨block, body⟩ := later
        rw [firstFence_of_closed hs hopen hrest]
        obtain ⟨hblock, fence, hfence, rfl⟩ := untilFence?_eq_some hrest
        -- An empty block is the case in which `split` looks for a later fence first.
        cases block with
        | nil =>
          refine split_of_direct_fence hs hopen hfence ?_
          rw [untilFence?_eq_none_iff]
          intro l hl
          rw [Bool.eq_false_iff]
          intro hl'
          exact h ⟨first, fence, body, hs, hopen, hfence, l, hl, hl'⟩
        | cons m ms =>
          have hms : untilFence? (ms ++ fence :: body) = some (ms, body) := by
            rw [List.cons_append, untilFence?_cons (hblock m List.mem_cons_self),
              Option.map_eq_some_iff] at hrest
            obtain ⟨⟨block, body'⟩, hlater, hpair⟩ := hrest
            obtain ⟨hcons, rfl⟩ := Prod.mk.inj hpair
            rw [hlater, (List.cons.inj hcons).2]
          exact split_of_later_fence hs hopen hms

theorem withoutLineEnd_fence_ne_nil (h : isClosing fence = true) (t : Text) :
    withoutLineEnd (fence ++ t) ≠ [] := by
  obtain ⟨p, -, e, -, rfl⟩ := isClosing_iff.mp h
  change withoutLineEnd ('-' :: ('-' :: '-' :: p ++ e ++ t)) ≠ []
  rw [Text.withoutLineEnd_cons (by simp) fun hc => absurd hc (by decide)]
  exact List.cons_ne_nil _ _

theorem split_ne_of_closedTwice (h : ClosedTwice s) : split s ≠ firstFence s := by
  obtain ⟨first, fence, rest, hs, hopen, hclose, l, hl, hl'⟩ := h
  have hfence : untilFence? (fence :: rest) = some ([], rest) := by
    rw [untilFence?, if_pos hclose]
  cases hrest : untilFence? rest with
  | none =>
    rw [untilFence?_eq_none_iff.mp hrest l hl] at hl'
    contradiction
  | some later =>
    obtain ⟨block, body⟩ := later
    rw [split_of_later_fence hs hopen hrest, firstFence_of_closed hs hopen hfence]
    intro heq
    have hblock := Option.some.inj (Prod.mk.inj heq).1
    exact withoutLineEnd_fence_ne_nil hclose block.flatten hblock

theorem exists_of_firstFence {yaml : Text} (h : (firstFence s).1 = some yaml) :
    ∃ first block fence body, lines s = first :: (block ++ fence :: body) ∧
      (∀ l ∈ block, isClosing l = false) ∧ yaml = withoutLineEnd block.flatten := by
  cases hs : lines s with
  | nil =>
    rw [firstFence, hs] at h
    contradiction
  | cons first rest =>
    cases hopen : isOpening first with
    | false =>
      rw [firstFence_of_not_opening hs hopen] at h
      contradiction
    | true =>
      cases hrest : untilFence? rest with
      | none =>
        rw [firstFence_of_not_closed hs hrest] at h
        contradiction
      | some later =>
        obtain ⟨block, body⟩ := later
        rw [firstFence_of_closed hs hopen hrest] at h
        obtain ⟨hblock, fence, -, rfl⟩ := untilFence?_eq_some hrest
        exact ⟨first, block, fence, body, rfl, hblock, (Option.some.inj h).symm⟩

theorem not_isClosing_withoutLineEnd {t : Text} (ht : '\n' ∉ t)
    (h : isClosing (t ++ ['\n']) = false) :
    ∀ l ∈ lines (withoutLineEnd (t ++ ['\n'])), isClosing l = false := by
  have hnot := Text.newline_not_mem_withoutLineEnd ht
  obtain ⟨e, he, hline⟩ := Text.exists_lineEnd t
  intro l hl
  rw [Bool.eq_false_iff]
  intro hclosing
  by_cases hnil : withoutLineEnd (t ++ ['\n']) = []
  · rw [hnil] at hl
    contradiction
  · rw [Text.lines_eq_singleton hnot hnil] at hl
    obtain rfl := List.mem_singleton.mp hl
    obtain ⟨p, hp, e', he', hfence⟩ := isClosing_iff.mp hclosing
    rcases List.mem_cons.mp he' with rfl | he'
    · rw [List.append_nil] at hfence
      have hclosed := isClosing_iff.mpr ⟨p, hp, e, List.mem_cons_of_mem _ he, rfl⟩
      rw [← hfence, ← hline, h] at hclosed
      contradiction
    · have hmem := Text.newline_mem_of_mem_lineEnds he'
      rw [hfence] at hnot
      exact hnot (List.mem_append_right _ hmem)

/-- A block that ends at the first closing line has no closing line. -/
theorem not_isClosing_of_firstFence {yaml : Text} (h : (firstFence s).1 = some yaml) :
    ∀ l ∈ lines yaml, isClosing l = false := by
  obtain ⟨first, block, fence, body, hs, hblock, rfl⟩ := exists_of_firstFence h
  have htail := Text.lines_flatten_tail hs
  have hread := Text.lines_flatten_append htail (List.cons_ne_nil fence body) []
  rw [List.append_nil, Text.lines, List.append_nil] at hread
  intro l hl
  rcases List.eq_nil_or_concat block with rfl | ⟨ms, m, rfl⟩
  · contradiction
  · rw [List.concat_eq_append] at hread hblock htail hl
    rw [List.append_assoc] at htail
    obtain ⟨t, ht, rfl⟩ := Text.line_ended htail (List.cons_ne_nil fence body)
    rw [Text.lines_withoutLineEnd hread] at hl
    rcases List.mem_append.mp hl with hl | hl
    · exact hblock l (List.mem_append_left _ hl)
    · have hm := hblock (t ++ ['\n']) (by simp)
      exact not_isClosing_withoutLineEnd ht hm l hl

/-- Frontmatter ends at the first closing line unless that line stands directly behind the opening
one and another one comes later. Then it ends at the next one. -/
theorem split_eq_firstFence_iff (s : Text) :
    (split s = firstFence s ↔ ¬ ClosedTwice s) ∧
      (¬ ClosedTwice s → ∀ yaml, (split s).1 = some yaml →
        ∀ l ∈ lines yaml, isClosing l = false) ∧
      ∀ first fence rest block body, lines s = first :: fence :: rest →
        isOpening first = true → untilFence? rest = some (block, body) →
        split s = (some (withoutLineEnd (fence ++ block.flatten)), body.flatten) := by
  refine ⟨⟨?_, split_of_not_closedTwice⟩, ?_, ?_⟩
  · intro heq htwice
    exact split_ne_of_closedTwice htwice heq
  · intro htwice yaml hyaml
    rw [split_of_not_closedTwice htwice] at hyaml
    exact not_isClosing_of_firstFence hyaml
  · intro first fence rest block body hs hopen hrest
    exact split_of_later_fence hs hopen hrest

theorem not_closedTwice_emptyBlock :
    ¬ ClosedTwice "---\n---\nbody" ∧ split "---\n---\nbody" = (some [], "body".toList) := by
  refine ⟨?_, by decide⟩
  exact (split_eq_firstFence_iff _).1.mp (by decide)

/-- The line that closes the empty block becomes part of one that ends at the rule in the body. -/
theorem split_emptyBlock_rule :
    split "---\n---\nbody\n---\n" = (some "---\nbody".toList, []) ∧
      firstFence "---\n---\nbody\n---\n" = (some [], "body\n---\n".toList) := by
  decide

end Split

end NoteVault.Fence
