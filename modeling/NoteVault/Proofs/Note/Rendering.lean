import NoteVault.Note.Frontmatter
import NoteVault.Proofs.Note.Behind
import NoteVault.Proofs.Yaml.Node
import NoteVault.Proofs.Yaml.Printed

/-! A text that is written with some metadata in front of a body is split again at the same place,
unless the YAML text of the metadata ends in another line break than a line feed. No metadata leaves
the body alone, and a body that begins with a block is split as any text is. -/

namespace NoteVault

namespace Text

theorem lines_append_ended (t u : Text) :
    lines (t ++ '\n' :: u) = lines (t ++ ['\n']) ++ lines u := by
  induction t with
  | nil => rw [List.nil_append, lines_newline, List.nil_append, lines_newline]; rfl
  | cons c t ih =>
    by_cases hc : c = '\n'
    · rw [hc, List.cons_append, lines_newline, ih, List.cons_append, lines_newline]
      rfl
    · cases hl : lines (t ++ ['\n']) with
      | nil =>
        have h := flatten_lines (t ++ ['\n'])
        rw [hl] at h
        exact absurd h (by simp)
      | cons l ls =>
        rw [hl] at ih
        rw [List.cons_append, lines_cons_of_eq hc ih, List.cons_append, lines_cons_of_eq hc hl]
        rfl

end Text

namespace Fence

open Text (lines)

theorem untilFence?_append {block : List Text} (hfree : ∀ l ∈ block, isClosing l = false)
    (rest : List Text) :
    untilFence? (block ++ rest) = (untilFence? rest).map fun (ls, body) => (block ++ ls, body) := by
  induction block with
  | nil =>
    rw [List.nil_append]
    exact Option.map_id'.symm
  | cons l ls ih =>
    rw [List.cons_append, untilFence?_cons (hfree l List.mem_cons_self),
      ih fun m hm => hfree m (List.mem_cons_of_mem l hm), Option.map_map]
    rfl

theorem not_isClosing_of_not_dashes {l : Text} (h : ¬ ("---" : Text) <+: l) :
    isClosing l = false := by
  rw [Bool.eq_false_iff]
  intro hl
  obtain ⟨p, -, e, -, rfl⟩ := isClosing_iff.mp hl
  rw [List.append_assoc] at h
  exact h (List.prefix_append _ _)

section Block

variable {s : Text} {block rest : List Text}

/-- Behind an opening fence and a line that is none, the first fence ends the block. -/
theorem split_of_free (hlines : lines s = ("---\n" : Text) :: (block ++ rest)) (hne : block ≠ [])
    (hfree : ∀ l ∈ block, isClosing l = false) : split s = firstFence s := by
  refine split_of_not_closedTwice ?_
  rintro ⟨first, fence, rest', hsplit, -, hclose, -⟩
  rw [hlines] at hsplit
  obtain ⟨l, ls, rfl⟩ := List.exists_cons_of_ne_nil hne
  obtain ⟨-, hsplit⟩ := List.cons.inj hsplit
  rw [← (List.cons.inj hsplit).1, hfree l List.mem_cons_self] at hclose
  contradiction

theorem lines_ne_nil {t : Text} (h : t ≠ []) : lines t ≠ [] := by
  intro hnil
  have ht := Text.flatten_lines t
  rw [hnil] at ht
  exact h ht.symm

theorem lines_open (t : Text) : lines ("---\n" ++ t) = ("---\n" : Text) :: lines t :=
  Text.lines_append_newline (t := "---") (by decide) t

/-- A block of lines that are no fences ends at the fence behind it. -/
theorem split_fenced {yaml body : Text} (hne : yaml ≠ []) (hend : yaml.getLast? = some '\n')
    (hfree : ∀ l ∈ lines yaml, isClosing l = false) :
    split ("---\n" ++ yaml ++ "---\n" ++ body) = (some (Text.withoutLineEnd yaml), body) := by
  have hlines : lines ("---\n" ++ yaml ++ "---\n" ++ body) =
      ("---\n" : Text) :: (lines yaml ++ ("---\n" : Text) :: lines body) := by
    obtain ⟨t, rfl⟩ := List.getLast?_eq_some_iff.mp hend
    rw [← lines_open, ← Text.lines_append_ended, ← lines_open]
    simp
  have huntil : untilFence? (lines yaml ++ ("---\n" : Text) :: lines body) =
      some (lines yaml, lines body) := by
    rw [untilFence?_append hfree, untilFence?, if_pos (by decide), Option.map_some]
    simp
  rw [split_of_free hlines (lines_ne_nil hne) hfree, firstFence_of_closed hlines (by decide) huntil,
    Text.flatten_lines, Text.flatten_lines]

/-- If the dashes behind the block do not stand on a line of their own, they and the lines behind them
up to the next fence belong to it. -/
theorem split_not_ended {yaml : Text} (hfree : ∀ l ∈ lines (yaml ++ "---\n"), isClosing l = false)
    (body : Text) :
    (split ("---\n" ++ yaml ++ "---\n" ++ body)).1 = none ∨
      ∃ t : Text, (t = [] ∨ t.head? = some '\n') ∧
        (split ("---\n" ++ yaml ++ "---\n" ++ body)).1 = some (yaml ++ ("---" ++ t)) := by
  have hlines : lines ("---\n" ++ yaml ++ "---\n" ++ body) =
      ("---\n" : Text) :: (lines (yaml ++ "---\n") ++ lines body) := by
    have hended := Text.lines_append_ended (yaml ++ "---") body
    rw [List.append_assoc yaml "---" ['\n']] at hended
    have hopen := lines_open (yaml ++ "---" ++ '\n' :: body)
    rw [hended] at hopen
    simpa using hopen
  have hne : lines (yaml ++ "---\n") ≠ [] := lines_ne_nil (by simp)
  rw [split_of_free hlines hne hfree]
  have huntil := untilFence?_append hfree (lines body)
  cases hbody : untilFence? (lines body) with
  | none =>
    rw [hbody] at huntil
    exact .inl (congrArg Prod.fst (firstFence_of_not_closed hlines huntil))
  | some later =>
    obtain ⟨ls, body'⟩ := later
    rw [hbody] at huntil
    right
    rw [firstFence_of_closed hlines (by decide) huntil, List.flatten_append, Text.flatten_lines]
    have hdashes := Text.withoutLineEnd_append_cons (yaml ++ "--") (d := '-') (by decide)
      (List.cons_ne_nil '\n' ls.flatten)
    refine ⟨Text.withoutLineEnd ('\n' :: ls.flatten), ?_, ?_⟩
    · by_cases hls : ls.flatten = []
      · exact .inl (by rw [hls]; rfl)
      · exact .inr (by rw [Text.withoutLineEnd_cons hls fun h => absurd h (by decide)]; rfl)
    · simpa using hdashes

end Block

end Fence

namespace Frontmatter

variable {m : Frontmatter} {body : Text}

theorem render_of_isEmpty (h : m.isEmpty = true) (body : Text) : render m body = body := if_pos h

/-- The block that holds some metadata, with its fences. -/
def block (m : Frontmatter) : Text := "---\n" ++ encode m ++ "---\n"

theorem render_of_not_isEmpty (h : m.isEmpty = false) (body : Text) :
    render m body = block m ++ body :=
  if_neg (Bool.eq_false_iff.mp h)

theorem entries_ne_nil (h : m.isEmpty = false) : m.entries ≠ [] := by
  intro hnil
  rw [Record.isEmpty, hnil] at h
  contradiction

theorem not_isClosing_encode (h : m.isEmpty = false) :
    ∀ l ∈ Text.lines (encode m), Fence.isClosing l = false := by
  intro l hl
  exact Fence.not_isClosing_of_not_dashes (Text.not_dashes_of_mem_lines
    (Yaml.Print.calm_record 0 m.entries) (Yaml.Print.averts_record 0 (entries_ne_nil h)) hl)

/-- A rendered text is split into the YAML text without its last line end and the same body. -/
theorem split_render (h : m.isEmpty = false) (hend : (encode m).getLast? = some '\n')
    (body : Text) :
    Fence.split (render m body) = (some (Text.withoutLineEnd (encode m)), body) := by
  have hne : encode m ≠ [] := by
    intro hnil
    rw [hnil] at hend
    contradiction
  rw [render_of_not_isEmpty h]
  exact Fence.split_fenced hne hend (not_isClosing_encode h)

/-- YAML text that runs on into the dashes of a document cannot be read. -/
theorem ofBlock_append_dashes {t : Text} (h : m.isEmpty = false)
    (hend : (encode m).getLast? ≠ some '\n') (ht : t = [] ∨ t.head? = some '\n') :
    ofBlock (encode m ++ ("---" ++ t)) = .empty := by
  have hne := entries_ne_nil h
  obtain ⟨c, s, hs, hc, hsame⟩ := Yaml.Print.exists_record 0 hne
  obtain ⟨e, he, hbreak⟩ := Yaml.Print.isEnded_record 0 m.entries hne
  have haverts := Yaml.Print.averts_record 0 hne ("---" ++ t)
  rw [← encode] at hs he haverts
  have hline : e ≠ '\n' := by
    rintro rfl
    exact hend he
  obtain ⟨a, ha⟩ := List.getLast?_eq_some_iff.mp he
  -- the text has more than one character, since only the last one breaks a line
  cases a with
  | nil =>
    rw [ha] at hs
    obtain ⟨rfl, -⟩ := List.cons.inj hs
    rw [hsame] at hbreak
    contradiction
  | cons d a =>
    obtain ⟨rfl, rfl⟩ := List.cons.inj (ha.symm.trans hs)
    have htext : encode m ++ ("---" ++ t) = d :: (a ++ e :: ("---" ++ t)) := by simp [ha]
    have hload : Yaml.load? (encode m ++ ("---" ++ t)) = none := by
      rw [htext] at haverts ⊢
      exact Yaml.load?_eq_none hc hsame haverts hbreak hline ht
    rw [ofBlock, decode?, hload]
    exact ite_self Record.empty

/-- If the YAML text does not end in a line feed, no metadata are read back. -/
theorem ofMarkdown_render_of_not_ended (h : m.isEmpty = false)
    (hend : (encode m).getLast? ≠ some '\n') (body : Text) : ofMarkdown (render m body) = .empty := by
  have hfree : ∀ l ∈ Text.lines (encode m ++ "---\n"), Fence.isClosing l = false := by
    intro l hl
    refine Fence.not_isClosing_of_not_dashes (Text.not_dashes_of_mem_lines ?_ ?_ hl)
    · refine (Yaml.Print.calm_record 0 m.entries).append_of_not_ended hend ?_
      have hline := (Text.calm_of_not_mem List.not_mem_nil).newline (.inl rfl)
      exact hline.append_left (s := "---") (by decide)
    · exact (Yaml.Print.averts_record 0 (entries_ne_nil h)).append _
  rw [ofMarkdown, render_of_not_isEmpty h, block]
  rcases Fence.split_not_ended hfree body with hnone | ⟨t, ht, hsome⟩
  · rw [hnone]
    rfl
  · rw [hsome, Option.map_some, Option.getD_some]
    exact ofBlock_append_dashes h hend ht

/-- A text of several lines keeps a separator at its end. -/
example : (encode (Record.empty.insert "a" (.text "b\nc\u2028"))).getLast? = some '\u2028' := by decide

theorem ofMarkdown_render (h : m.isEmpty = false) (hend : (encode m).getLast? = some '\n')
    (body : Text) :
    ofMarkdown (render m body) = ofBlock (Text.withoutLineEnd (encode m)) := by
  rw [ofMarkdown, split_render h hend]
  rfl

/-- Rendered metadata is split off again. A body without metadata is given back without a block
exactly if it does not begin with one. -/
theorem split_render_block_or_body (m : Frontmatter) (body : Text)
    (hend : m.isEmpty = false → (encode m).getLast? = some '\n') :
    (m.isEmpty = false →
      Fence.split (render m body) = (some (Text.withoutLineEnd (encode m)), body)) ∧
    (m.isEmpty = true →
      Fence.split (render m body) = Fence.split body ∧
      (Fence.split (render m body) = (none, body) ↔ ¬Fence.BeginsBlock body)) := by
  refine ⟨fun hm => split_render hm (hend hm) body, fun hm => ?_⟩
  have hrender := render_of_isEmpty hm body
  rw [hrender]
  exact ⟨rfl, Fence.split_eq_self_iff⟩

theorem split_render_block_or_body_one :
    (encode (Record.empty.insert "a" (.int 1))).getLast? = some '\n' ∧
      Fence.split (render (Record.empty.insert "a" (.int 1)) "---\nb: 2\n---\nbody") =
        (some "a: 1".toList, "---\nb: 2\n---\nbody".toList) := by
  have hend : (encode (Record.empty.insert "a" (.int 1))).getLast? = some '\n' := by decide
  have hsplit := (split_render_block_or_body (Record.empty.insert "a" (.int 1))
    "---\nb: 2\n---\nbody" fun _ => hend).1 (by decide)
  have hyaml : Text.withoutLineEnd (encode (Record.empty.insert "a" (.int 1))) = "a: 1".toList := by
    decide
  rw [hyaml] at hsplit
  exact ⟨hend, hsplit⟩

/-- The block at the beginning of a body becomes metadata if there was none. -/
theorem split_render_empty_fenced :
    Fence.split (render Record.empty "---\nb: 2\n---\nbody") =
      (some "b: 2".toList, "body".toList) := by
  decide

end Frontmatter

end NoteVault
