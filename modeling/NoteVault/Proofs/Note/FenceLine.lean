import Mathlib.Data.List.TakeWhile
import NoteVault.Note.Fence
import NoteVault.Proofs.Text.Line

/-! Fences as lines of a text. A fence is read off the beginning of a text as its whole first line. -/

namespace NoteVault.Fence

open Text (lineEnds lines)

/-- Whether a line is a fence with one of some ends. -/
def isFence (ends : List Text) (l : Text) : Bool :=
  match Text.after? "---" l with
  | none => false
  | some r => ends.contains (r.dropWhile isPadding)

def isOpening : Text → Bool := isFence lineEnds

def isClosing : Text → Bool := isFence ([] :: lineEnds)

theorem dropWhile_padding_iff {r e : Text} (he : ∀ c ∈ e.head?, isPadding c = false) :
    r.dropWhile isPadding = e ↔ ∃ p, (∀ c ∈ p, isPadding c = true) ∧ r = p ++ e := by
  constructor
  · rintro rfl
    exact ⟨r.takeWhile isPadding, fun c hc => List.mem_takeWhile_imp hc,
      List.takeWhile_append_dropWhile.symm⟩
  · rintro ⟨p, hp, rfl⟩
    rw [List.dropWhile_append_of_pos hp]
    cases e with
    | nil => rfl
    | cons c e => rw [List.dropWhile_cons_of_neg (by simp [he c rfl])]

theorem isFence_iff {ends : List Text} (hends : ∀ e ∈ ends, ∀ c ∈ e.head?, isPadding c = false)
    {l : Text} : isFence ends l = true ↔
      ∃ p, (∀ c ∈ p, isPadding c = true) ∧ ∃ e ∈ ends, l = ("---" : Text) ++ p ++ e := by
  constructor
  · intro h
    unfold isFence at h
    split at h
    · contradiction
    · next r hr =>
      have he := List.contains_iff_mem.mp h
      obtain ⟨p, hp, hr'⟩ := (dropWhile_padding_iff (hends _ he)).mp rfl
      refine ⟨p, hp, _, he, ?_⟩
      rw [Text.eq_append_of_after? hr, List.append_assoc]
      exact congrArg _ hr'
  · rintro ⟨p, hp, e, he, rfl⟩
    have hdrop := (dropWhile_padding_iff (hends e he)).mpr ⟨p, hp, rfl⟩
    rw [isFence, List.append_assoc, Text.after?_append]
    simpa [hdrop] using he

theorem newline_not_mem_fence {p : Text} (hp : ∀ c ∈ p, isPadding c = true) :
    '\n' ∉ ("---" : Text) ++ p := by
  intro h
  rcases List.mem_append.mp h with h | h
  · revert h
    decide
  · exact absurd (hp _ h) (by decide)

theorem lines_fence {p e : Text} (hp : ∀ c ∈ p, isPadding c = true) (he : e ∈ lineEnds)
    (r : Text) :
    lines (("---" : Text) ++ p ++ e ++ r) = (("---" : Text) ++ p ++ e) :: lines r := by
  have hnot := newline_not_mem_fence hp
  rcases Text.mem_lineEnds.mp he with rfl | rfl
  · simpa using Text.lines_append_newline hnot r
  · have hnot' : '\n' ∉ ("---" : Text) ++ p ++ ['\r'] := by
      rw [List.mem_append, not_or]
      exact ⟨hnot, by decide⟩
    simpa using Text.lines_append_newline hnot' r

theorem afterLineEnd?_eq_some_iff {s r : Text} :
    afterLineEnd? s = some r ↔ ∃ e ∈ lineEnds, s = e ++ r := by
  constructor
  · intro h
    unfold afterLineEnd? at h
    split at h
    · exact ⟨['\n'], by decide, by rw [Option.some.inj h]; rfl⟩
    · exact ⟨['\r', '\n'], by decide, by rw [Option.some.inj h]; rfl⟩
    · contradiction
  · rintro ⟨e, he, rfl⟩
    rcases Text.mem_lineEnds.mp he with rfl | rfl
    · rfl
    · rfl

theorem not_padding_of_mem_lineEnds {e : Text} (he : e ∈ lineEnds) (r : Text) :
    ∀ c ∈ (e ++ r).head?, isPadding c = false := by
  rcases Text.mem_lineEnds.mp he with rfl | rfl
  · rintro c ⟨⟩
    rfl
  · rintro c ⟨⟩
    rfl

theorem dropWhile_lineEnd_iff {s r : Text} :
    afterLineEnd? (s.dropWhile isPadding) = some r ↔
      ∃ p, (∀ c ∈ p, isPadding c = true) ∧ ∃ e ∈ lineEnds, s = p ++ (e ++ r) := by
  rw [afterLineEnd?_eq_some_iff]
  constructor
  · rintro ⟨e, he, h⟩
    obtain ⟨p, hp, hs⟩ := (dropWhile_padding_iff (not_padding_of_mem_lineEnds he r)).mp h
    exact ⟨p, hp, e, he, hs⟩
  · rintro ⟨p, hp, e, he, hs⟩
    exact ⟨e, he, (dropWhile_padding_iff (not_padding_of_mem_lineEnds he r)).mpr ⟨p, hp, hs⟩⟩

theorem isOpening_iff {l : Text} : isOpening l = true ↔
    ∃ p, (∀ c ∈ p, isPadding c = true) ∧ ∃ e ∈ lineEnds, l = ("---" : Text) ++ p ++ e := by
  refine isFence_iff ?_
  intro e he
  simpa using not_padding_of_mem_lineEnds he []

theorem isClosing_iff {l : Text} : isClosing l = true ↔
    ∃ p, (∀ c ∈ p, isPadding c = true) ∧ ∃ e ∈ [] :: lineEnds, l = ("---" : Text) ++ p ++ e := by
  refine isFence_iff ?_
  intro e he
  rcases List.mem_cons.mp he with rfl | he
  · simp
  · simpa using not_padding_of_mem_lineEnds he []

/-- A fence with a line end is the whole first line. -/
theorem exists_fence_iff {s r : Text} :
    (∃ p, (∀ c ∈ p, isPadding c = true) ∧ ∃ e ∈ lineEnds, s = ("---" : Text) ++ (p ++ (e ++ r))) ↔
      ∃ l, isOpening l = true ∧ lines s = l :: lines r := by
  constructor
  · rintro ⟨p, hp, e, he, rfl⟩
    refine ⟨_, isOpening_iff.mpr ⟨p, hp, e, he, rfl⟩, ?_⟩
    rw [← lines_fence hp he, List.append_assoc, List.append_assoc]
  · rintro ⟨l, hl, hs⟩
    obtain ⟨p, hp, e, he, rfl⟩ := isOpening_iff.mp hl
    have hs' := Text.eq_append_of_lines hs
    rw [Text.flatten_lines] at hs'
    refine ⟨p, hp, e, he, ?_⟩
    rw [hs', List.append_assoc, List.append_assoc]

theorem opened?_eq_some_iff {s r : Text} :
    opened? s = some r ↔ ∃ l, isOpening l = true ∧ lines s = l :: lines r := by
  rw [← exists_fence_iff, opened?, Option.bind_eq_some_iff]
  constructor
  · rintro ⟨t, ht, hr⟩
    obtain ⟨p, hp, e, he, rfl⟩ := dropWhile_lineEnd_iff.mp hr
    exact ⟨p, hp, e, he, Text.eq_append_of_after? ht⟩
  · rintro ⟨p, hp, e, he, rfl⟩
    exact ⟨_, Text.after?_append _ _, dropWhile_lineEnd_iff.mpr ⟨p, hp, e, he, rfl⟩⟩

theorem closed?_of_opened? {s r : Text} (h : opened? s = some r) : closed? s = some r := by
  rw [opened?, Option.bind_eq_some_iff] at h
  obtain ⟨t, ht, hr⟩ := h
  rw [closed?, ht, Option.bind_some]
  split
  · next hnil =>
    rw [hnil] at hr
    contradiction
  · exact hr

theorem closed?_eq_some_iff {s r : Text} :
    closed? s = some r ↔ ∃ l, isClosing l = true ∧ lines s = l :: lines r := by
  constructor
  · intro h
    rw [closed?, Option.bind_eq_some_iff] at h
    obtain ⟨t, ht, hr⟩ := h
    split at hr
    · next hnil =>
      obtain ⟨p, hp, hpt⟩ := (dropWhile_padding_iff (by simp)).mp hnil
      obtain rfl := Option.some.inj hr
      rw [List.append_nil] at hpt
      have hs := Text.eq_append_of_after? ht
      rw [hpt] at hs
      refine ⟨s, isClosing_iff.mpr ⟨p, hp, [], List.mem_cons_self, by rw [hs, List.append_nil]⟩, ?_⟩
      rw [hs]
      exact Text.lines_eq_singleton (newline_not_mem_fence hp) (by simp)
    · have hopened : opened? s = some r := by
        rw [opened?, ht]
        exact hr
      obtain ⟨l, hl, hs⟩ := opened?_eq_some_iff.mp hopened
      obtain ⟨p, hp, e, he, hl'⟩ := isOpening_iff.mp hl
      exact ⟨l, isClosing_iff.mpr ⟨p, hp, e, List.mem_cons_of_mem _ he, hl'⟩, hs⟩
  · rintro ⟨l, hl, hs⟩
    obtain ⟨p, hp, e, he, hl'⟩ := isClosing_iff.mp hl
    rcases List.mem_cons.mp he with rfl | he
    · rw [List.append_nil] at hl'
      have hnot := newline_not_mem_fence hp
      rw [← hl'] at hnot
      rcases Text.cases_of_lines hs with ⟨t, -, rfl, -⟩ | ⟨-, -, hr⟩
      · exact absurd (by simp) hnot
      · have hs' := Text.eq_append_of_lines hs
        rw [hr, List.flatten_nil, List.append_nil, hl'] at hs'
        have hr' := Text.flatten_lines r
        rw [hr] at hr'
        have hdrop := (dropWhile_padding_iff (e := []) (by simp)).mpr ⟨p, hp, rfl⟩
        rw [List.append_nil] at hdrop
        rw [closed?, hs', Text.after?_append, Option.bind_some, hdrop, ← hr']
        rfl
    · exact closed?_of_opened? (opened?_eq_some_iff.mpr
        ⟨l, isOpening_iff.mpr ⟨p, hp, e, he, hl'⟩, hs⟩)

end NoteVault.Fence
