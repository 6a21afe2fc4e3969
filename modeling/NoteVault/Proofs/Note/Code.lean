import NoteVault.Note.Basic
import NoteVault.Proofs.Text.Scan

/-! Code in a body. A fenced block counts as a space whatever is in it, so that a note has the tags and
links that stand outside of it and no other ones. -/

namespace NoteVault

namespace Code

variable {c : Char} {p code s : Text}

theorem after?_of_ne (hc : c ≠ '`') (s : Text) : after? (c :: s) = none := by
  unfold after?
  split
  · next heq => exact absurd (List.cons.inj heq).1 hc
  · next heq => exact absurd (List.cons.inj heq).1 hc
  · rfl

theorem blankOut_append (hp : '`' ∉ p) (s : Text) : blankOut (p ++ s) = p ++ blankOut s := by
  refine Text.replaceMatches_append_of_none _ fun l c r hpieces => after?_of_ne ?_ _
  rintro rfl
  exact hp (by simp [hpieces])

theorem blankOut_eq_self (hs : '`' ∉ s) : blankOut s = s := by
  have happend := blankOut_append hs []
  have hnil : blankOut [] = [] := by rw [blankOut, Text.replaceMatches]
  rwa [hnil, List.append_nil] at happend

/-- The mark in front of and behind a block of code. -/
def fence : Text := "```"

/-- A block of code between fences. -/
def fenced (code : Text) : Text := fence ++ code ++ fence

theorem afterFence?_append (hcode : '`' ∉ code) (s : Text) :
    afterFence? (code ++ (fence ++ s)) = some s := by
  induction code with
  | nil => rfl
  | cons c code ih =>
    rw [List.mem_cons, not_or] at hcode
    rw [List.cons_append, afterFence?]
    · exact ih hcode.2
    · intro r hc
      exact absurd hc.symm hcode.1

theorem after?_fenced (hcode : '`' ∉ code) (s : Text) : after? (fenced code ++ s) = some s := by
  have hafter := afterFence?_append hcode s
  have hopen : fenced code ++ s = '`' :: '`' :: '`' :: (code ++ (fence ++ s)) := by
    simp [fenced, fence]
  rw [hopen, after?, hafter]

theorem blankOut_fenced_append (hcode : '`' ∉ code) (s : Text) :
    blankOut (fenced code ++ s) = ' ' :: blankOut s := by
  have hafter := after?_fenced hcode s
  have hopen : fenced code ++ s = '`' :: ('`' :: '`' :: code ++ fence ++ s) := rfl
  rw [hopen] at hafter ⊢
  refine Text.replaceMatches_cons_of_some _ hafter ?_
  simp only [List.length_append]
  omega

theorem blankOut_around_fenced (hp : '`' ∉ p) (hcode : '`' ∉ code) (s : Text) :
    blankOut (p ++ fenced code ++ s) = blankOut (p ++ ' ' :: s) := by
  have hspace : blankOut (' ' :: s) = ' ' :: blankOut s :=
    Text.replaceMatches_cons_of_none _ (after?_of_ne (by decide) s)
  rw [List.append_assoc, blankOut_append hp, blankOut_append hp, blankOut_fenced_append hcode, hspace]

end Code

namespace Note

variable {p code : Text}

theorem tagsOf_around_fenced (m : Frontmatter) (hp : '`' ∉ p) (hcode : '`' ∉ code) (s : Text) :
    tagsOf m (p ++ Code.fenced code ++ s) = tagsOf m (p ++ ' ' :: s) := by
  rw [tagsOf, tagsOf, Code.blankOut_around_fenced hp hcode]

theorem linksOf_around_fenced (m : Frontmatter) (hp : '`' ∉ p) (hcode : '`' ∉ code) (s : Text) :
    linksOf m (p ++ Code.fenced code ++ s) = linksOf m (p ++ ' ' :: s) := by
  rw [linksOf, linksOf, Code.blankOut_around_fenced hp hcode]

/-- Two bodies that differ in the text of a fenced block have the same tags and links, those of the body
with a space in place of the block. -/
theorem independent_of_fenced (m : Frontmatter) {p code code' : Text} (hp : '`' ∉ p)
    (hcode : '`' ∉ code) (hcode' : '`' ∉ code') (s : Text) :
    (tagsOf m (p ++ Code.fenced code ++ s) = tagsOf m (p ++ Code.fenced code' ++ s) ∧
      linksOf m (p ++ Code.fenced code ++ s) = linksOf m (p ++ Code.fenced code' ++ s)) ∧
    tagsOf m (p ++ Code.fenced code ++ s) = tagsOf m (p ++ ' ' :: s) ∧
      linksOf m (p ++ Code.fenced code ++ s) = linksOf m (p ++ ' ' :: s) := by
  have htags := tagsOf_around_fenced m hp hcode s
  have hlinks := linksOf_around_fenced m hp hcode s
  refine ⟨⟨?_, ?_⟩, htags, hlinks⟩
  · rw [htags, tagsOf_around_fenced m hp hcode']
  · rw [hlinks, linksOf_around_fenced m hp hcode']

/-- The text behind the block has a backtick without a partner. -/
theorem independent_of_fenced_unpaired :
    ('`' ∉ "#a [[A]]".toList ∧ '`' ∉ "#b [[B]]".toList ∧ '`' ∉ "\n".toList) ∧
      (tagsOf .empty ("#a [[A]]".toList ++ Code.fenced "#b [[B]]" ++ "#c `[[C]] #d".toList) =
          tagsOf .empty ("#a [[A]]".toList ++ Code.fenced "\n" ++ "#c `[[C]] #d".toList) ∧
        linksOf .empty ("#a [[A]]".toList ++ Code.fenced "#b [[B]]" ++ "#c `[[C]] #d".toList) =
          linksOf .empty ("#a [[A]]".toList ++ Code.fenced "\n" ++ "#c `[[C]] #d".toList)) ∧
      tagsOf .empty ("#a [[A]]".toList ++ Code.fenced "#b [[B]]" ++ "#c `[[C]] #d".toList) =
        ["a", "c", "d"].map String.toList ∧
      linksOf .empty ("#a [[A]]".toList ++ Code.fenced "#b [[B]]" ++ "#c `[[C]] #d".toList) =
        ["A", "C"].map String.toList := by
  have hp : '`' ∉ "#a [[A]]".toList := by decide
  have hcode : '`' ∉ "#b [[B]]".toList := by decide
  have hcode' : '`' ∉ "\n".toList := by decide
  obtain ⟨hsame, htags, hlinks⟩ :=
    independent_of_fenced .empty hp hcode hcode' "#c `[[C]] #d".toList
  refine ⟨⟨hp, hcode, hcode'⟩, hsame, htags.trans ?_, hlinks.trans ?_⟩
  · decide +kernel
  · decide +kernel

end Note

end NoteVault
