import Mathlib.Data.List.Induction
import Mathlib.Data.List.Nodup
import Mathlib.Tactic.SplitIfs

/-! Lists without their repetitions: of equal elements the first one stays, or the first of neighbours. -/

namespace NoteVault

variable {α : Type} [BEq α] {a : α} {l : List α}

theorem eraseReps_cons_cons (a b : α) (l : List α) :
    (a :: b :: l).eraseReps = if a == b then (a :: l).eraseReps else a :: (b :: l).eraseReps := by
  have hloop : ∀ (l : List α) (a : α) (acc : List α),
      List.eraseRepsBy.loop (· == ·) a l acc =
        acc.reverse ++ List.eraseRepsBy.loop (· == ·) a l [] := by
    intro l
    induction l with
    | nil => simp [List.eraseRepsBy.loop]
    | cons c l ih =>
      intro a acc
      cases hac : a == c with
      | true => simp [List.eraseRepsBy.loop, hac, ih a acc]
      | false => simp [List.eraseRepsBy.loop, hac, ih c (a :: acc), ih c [a]]
  cases hab : a == b with
  | true => simp [List.eraseReps, List.eraseRepsBy, List.eraseRepsBy.loop, hab]
  | false => simp [List.eraseReps, List.eraseRepsBy, List.eraseRepsBy.loop, hab, hloop l b [a]]

variable [LawfulBEq α]

theorem eraseDups_concat (l : List α) (a : α) :
    (l ++ [a]).eraseDups = if a ∈ l then l.eraseDups else l.eraseDups ++ [a] := by
  rw [List.eraseDups_append]
  by_cases h : a ∈ l <;> simp [List.removeAll, List.eraseDups_cons, h]

theorem nodup_eraseDups (l : List α) : l.eraseDups.Nodup := by
  induction l using List.reverseRecOn with
  | nil => exact List.nodup_nil
  | append_singleton l a ih =>
    rw [eraseDups_concat]
    split_ifs with h
    · exact ih
    · refine List.nodup_append.mpr ⟨ih, List.pairwise_singleton _ _, ?_⟩
      rintro b hb c hc rfl
      rw [List.mem_singleton.mp hc, List.mem_eraseDups] at hb
      exact h hb

theorem mem_eraseReps : a ∈ l.eraseReps ↔ a ∈ l := by
  induction l with
  | nil => rfl
  | cons b l ih =>
    cases l with
    | nil => rfl
    | cons c l =>
      rw [eraseReps_cons_cons]
      cases hbc : b == c with
      | true =>
        obtain rfl := eq_of_beq hbc
        simp [ih]
      | false => simp [ih]

/-- In an ascending list equal elements are neighbours. -/
theorem nodup_eraseReps {R : α → α → Prop} (hanti : ∀ a b, R a b → R b a → a = b)
    (h : l.Pairwise R) : l.eraseReps.Nodup := by
  induction l with
  | nil => exact List.nodup_nil
  | cons b l ih =>
    cases l with
    | nil => exact List.nodup_singleton b
    | cons c l =>
      obtain ⟨hb, hl⟩ := List.pairwise_cons.mp h
      rw [eraseReps_cons_cons]
      by_cases hbc : b = c
      · subst hbc
        simpa using ih hl
      · have hne : (b == c) = false := by simpa using hbc
        rw [hne, if_neg Bool.false_ne_true, List.nodup_cons, mem_eraseReps]
        refine ⟨?_, ih hl⟩
        intro hmem
        have hc := (List.pairwise_cons.mp hl).1
        rcases List.mem_cons.mp hmem with hbc' | hmem
        · exact hbc hbc'
        · exact hbc (hanti b c (hb c List.mem_cons_self) (hc b hmem))

end NoteVault
