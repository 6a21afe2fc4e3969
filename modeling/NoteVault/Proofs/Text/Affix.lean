import Mathlib.Data.List.Infix
import NoteVault.Text.Basic

/-! Beginnings and parts of a text, and the places where it is cut. -/

namespace NoteVault.Text

theorem cut?_eq_some {c : Char} {s l r : Text} (h : cut? c s = some (l, r)) :
    s = l ++ c :: r ∧ c ∉ l := by
  induction s generalizing l with
  | nil => simp [cut?] at h
  | cons d s ih =>
    by_cases hd : d = c
    · simp only [cut?, hd, if_true, Option.some.injEq, Prod.mk.injEq] at h
      obtain ⟨rfl, rfl⟩ := h
      simp [hd]
    · cases hs : cut? c s with
      | none => simp [cut?, hd, hs] at h
      | some sides =>
        obtain ⟨l', r'⟩ := sides
        simp only [cut?, hd, if_false, hs, Option.map_some, Option.some.injEq, Prod.mk.injEq] at h
        obtain ⟨rfl, rfl⟩ := h
        have hh := ih hs
        exact ⟨by simp [hh.1], by simp [hh.2, Ne.symm hd]⟩

theorem cutLast?_eq_some {c : Char} {s l r : Text} (h : cutLast? c s = some (l, r)) :
    s = l ++ c :: r ∧ c ∉ r := by
  unfold cutLast? at h
  cases hs : cut? c s.reverse with
  | none => simp [hs] at h
  | some sides =>
    obtain ⟨r', l'⟩ := sides
    simp only [hs, Option.map_some, Option.some.injEq, Prod.mk.injEq] at h
    obtain ⟨rfl, rfl⟩ := h
    have hh := cut?_eq_some hs
    constructor
    · simpa using congrArg List.reverse hh.1
    · simpa using hh.2

theorem cut?_append {c : Char} {l : Text} (h : c ∉ l) (r : Text) :
    cut? c (l ++ c :: r) = some (l, r) := by
  induction l with
  | nil => simp [cut?]
  | cons d l ih =>
    simp only [List.mem_cons, not_or] at h
    rw [List.cons_append, cut?, if_neg (Ne.symm h.1), ih h.2]
    rfl

theorem cut?_eq_none_iff {c : Char} {s : Text} : cut? c s = none ↔ c ∉ s := by
  constructor
  · intro h hc
    obtain ⟨l, r, hs, hl⟩ := List.eq_append_cons_of_mem hc
    rw [hs, cut?_append hl] at h
    contradiction
  · intro h
    rw [Option.eq_none_iff_forall_not_mem]
    intro sides hsides
    rw [(cut?_eq_some hsides).1] at h
    simp at h

theorem cutLast?_eq_none_iff {c : Char} {s : Text} : cutLast? c s = none ↔ c ∉ s := by
  rw [cutLast?, Option.map_eq_none_iff, cut?_eq_none_iff, List.mem_reverse]

theorem beginsWith_iff {lead s : Text} : beginsWith lead s = true ↔ lead <+: s := by
  rw [beginsWith, Option.isSome_iff_exists]
  constructor
  · rintro ⟨r, hr⟩
    exact ⟨r, (after?_eq_some_iff.mp hr).symm⟩
  · rintro ⟨r, rfl⟩
    exact ⟨r, after?_append lead r⟩

theorem holds_iff {part s : Text} : holds part s = true ↔ part <:+: s := by
  induction s with
  | nil => rw [holds, beginsWith_iff, List.prefix_nil, List.infix_nil]
  | cons c s ih => rw [holds, Bool.or_eq_true, beginsWith_iff, ih, List.infix_cons_iff]

/-- What follows the first `c` of a text tells nothing about what precedes it. -/
theorem after?_append_cons {c : Char} (lead : Text) {head : Text} (hlead : c ∉ lead) (hhead : c ∉ head)
    (rest : Text) :
    after? (lead ++ [c]) (head ++ c :: rest) = if lead = head then some rest else none := by
  split
  · next h =>
    subst h
    rw [after?_eq_some_iff, List.append_assoc, List.singleton_append]
  · next h =>
    rw [Option.eq_none_iff_forall_not_mem]
    intro r hr
    have hs := after?_eq_some_iff.mp hr
    rw [List.append_assoc, List.singleton_append] at hs
    have hcut := cut?_append hhead rest
    rw [hs, cut?_append hlead] at hcut
    exact h (Prod.mk.inj (Option.some.inj hcut)).1

end NoteVault.Text
