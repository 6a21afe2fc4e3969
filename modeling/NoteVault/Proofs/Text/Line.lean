import NoteVault.Text.Basic

/-! The lines of a text, each with the line end behind it. -/

namespace NoteVault.Text

def lines : Text → List Text
  | [] => []
  | c :: s =>
    if c = '\n' then ['\n'] :: lines s
    else
      match lines s with
      | [] => [[c]]
      | l :: ls => (c :: l) :: ls

def lineEnds : List Text := [['\n'], ['\r', '\n']]

/-- A text without the line end at its end. -/
def withoutLineEnd : Text → Text
  | [] => []
  | ['\n'] => []
  | ['\r', '\n'] => []
  | c :: s => c :: withoutLineEnd s

theorem mem_lineEnds {e : Text} : e ∈ lineEnds ↔ e = ['\n'] ∨ e = ['\r', '\n'] := by
  simp [lineEnds]

theorem newline_mem_of_mem_lineEnds {e : Text} (he : e ∈ lineEnds) : '\n' ∈ e := by
  rcases mem_lineEnds.mp he with rfl | rfl
  · decide
  · decide

theorem lines_newline (s : Text) : lines ('\n' :: s) = ['\n'] :: lines s := by
  rw [lines, if_pos rfl]

theorem lines_cons_of_eq {c : Char} (hc : c ≠ '\n') {s l : Text} {ls : List Text}
    (h : lines s = l :: ls) : lines (c :: s) = (c :: l) :: ls := by
  rw [lines, if_neg hc, h]

theorem lines_lineEnd {e : Text} (he : e ∈ lineEnds) (s : Text) :
    lines (e ++ s) = e :: lines s := by
  rcases mem_lineEnds.mp he with rfl | rfl
  · exact lines_newline s
  · exact lines_cons_of_eq (by decide) (lines_newline s)

theorem flatten_lines (s : Text) : (lines s).flatten = s := by
  induction s with
  | nil => rfl
  | cons c s ih =>
    unfold lines
    split
    · next hc => rw [List.flatten_cons, ih, hc, List.singleton_append]
    · split
      · next h =>
        rw [h] at ih
        rw [← ih]
        rfl
      · next h =>
        rw [h] at ih
        rw [← ih]
        rfl

theorem eq_append_of_lines {s l : Text} {ls : List Text} (h : lines s = l :: ls) :
    s = l ++ ls.flatten := by
  rw [← flatten_lines s, h, List.flatten_cons]

theorem lines_append_newline {t : Text} (ht : '\n' ∉ t) (s : Text) :
    lines (t ++ '\n' :: s) = (t ++ ['\n']) :: lines s := by
  induction t with
  | nil => exact lines_newline s
  | cons c t ih =>
    rw [List.mem_cons, not_or] at ht
    exact lines_cons_of_eq (Ne.symm ht.1) (ih ht.2)

theorem lines_eq_singleton {t : Text} (ht : '\n' ∉ t) (hne : t ≠ []) : lines t = [t] := by
  induction t with
  | nil => contradiction
  | cons c t ih =>
    rw [List.mem_cons, not_or] at ht
    rw [lines, if_neg (Ne.symm ht.1)]
    by_cases h : t = []
    · rw [h]
      rfl
    · rw [ih ht.2 h]

/-- A line is ended, or it is the rest of the text. -/
theorem cases_of_lines {s l : Text} {ls : List Text} (h : lines s = l :: ls) :
    (∃ t, '\n' ∉ t ∧ l = t ++ ['\n'] ∧ lines ls.flatten = ls) ∨ ('\n' ∉ l ∧ l ≠ [] ∧ ls = []) := by
  induction s generalizing l with
  | nil => contradiction
  | cons c s ih =>
    by_cases hc : c = '\n'
    · rw [hc, lines_newline] at h
      obtain ⟨rfl, rfl⟩ := List.cons.inj h
      exact .inl ⟨[], List.not_mem_nil, rfl, by rw [flatten_lines]⟩
    · cases hs : lines s with
      | nil =>
        rw [lines, if_neg hc, hs] at h
        obtain ⟨rfl, rfl⟩ := List.cons.inj h
        exact .inr ⟨by simpa using Ne.symm hc, List.cons_ne_nil c [], rfl⟩
      | cons m ms =>
        rw [lines_cons_of_eq hc hs] at h
        obtain ⟨rfl, rfl⟩ := List.cons.inj h
        rcases ih hs with ⟨t, ht, rfl, hms⟩ | ⟨hm, -, rfl⟩
        · exact .inl ⟨c :: t, by simp [Ne.symm hc, ht], rfl, hms⟩
        · exact .inr ⟨by simp [Ne.symm hc, hm], List.cons_ne_nil c m, rfl⟩

theorem first_ne_nil_of_lines {s l : Text} {ls : List Text} (h : lines s = l :: ls) : l ≠ [] := by
  rcases cases_of_lines h with ⟨t, -, rfl, -⟩ | ⟨-, hl, -⟩
  · simp
  · exact hl

theorem lines_flatten_tail {s l : Text} {ls : List Text} (h : lines s = l :: ls) :
    lines ls.flatten = ls := by
  rcases cases_of_lines h with ⟨-, -, -, hls⟩ | ⟨-, -, rfl⟩
  · exact hls
  · rfl

/-- Each line but the last one is ended. -/
theorem line_ended {s l : Text} {block rest : List Text} (h : lines s = block ++ l :: rest)
    (hrest : rest ≠ []) : ∃ t, '\n' ∉ t ∧ l = t ++ ['\n'] := by
  induction block generalizing s with
  | nil =>
    rcases cases_of_lines h with ⟨t, ht, hl, -⟩ | ⟨-, -, hnil⟩
    · exact ⟨t, ht, hl⟩
    · contradiction
  | cons m ms ih =>
    rcases cases_of_lines h with ⟨-, -, -, hms⟩ | ⟨-, -, hnil⟩
    · exact ih hms
    · exact absurd hnil (by simp)

/-- A text that follows some lines of another one is read behind them. -/
theorem lines_flatten_append {s : Text} {block rest : List Text} (h : lines s = block ++ rest)
    (hrest : rest ≠ []) (u : Text) : lines (block.flatten ++ u) = block ++ lines u := by
  induction block generalizing s with
  | nil => rfl
  | cons l ls ih =>
    rcases cases_of_lines h with ⟨t, ht, rfl, hls⟩ | ⟨-, -, hls⟩
    · have hline := lines_append_newline ht (ls.flatten ++ u)
      rw [ih hls] at hline
      simpa using hline
    · exact absurd (List.append_eq_nil_iff.mp hls).2 hrest

theorem withoutLineEnd_cons {c : Char} {s : Text} (hs : s ≠ []) (h : c = '\r' → s ≠ ['\n']) :
    withoutLineEnd (c :: s) = c :: withoutLineEnd s := by
  rw [withoutLineEnd]
  · intro _ hnil
    exact absurd hnil hs
  · intro hc hs'
    exact absurd hs' (h hc)

theorem withoutLineEnd_lineEnd {e : Text} (he : e ∈ lineEnds) : withoutLineEnd e = [] := by
  rcases mem_lineEnds.mp he with rfl | rfl
  · rfl
  · rfl

theorem withoutLineEnd_append {e s : Text} (he : e ∈ lineEnds) (hs : s ≠ []) :
    withoutLineEnd (e ++ s) = e ++ withoutLineEnd s := by
  have hnewline : withoutLineEnd ('\n' :: s) = '\n' :: withoutLineEnd s :=
    withoutLineEnd_cons hs fun h => absurd h (by decide)
  rcases mem_lineEnds.mp he with rfl | rfl
  · exact hnewline
  · have hreturn : withoutLineEnd ('\r' :: '\n' :: s) = '\r' :: withoutLineEnd ('\n' :: s) :=
      withoutLineEnd_cons (by simp) (by simpa using hs)
    rw [hnewline] at hreturn
    exact hreturn

theorem withoutLineEnd_append_cons (t : Text) {d : Char} (hd : d ≠ '\r') {s : Text} (hs : s ≠ []) :
    withoutLineEnd (t ++ d :: s) = t ++ d :: withoutLineEnd s := by
  induction t with
  | nil => exact withoutLineEnd_cons hs fun h => absurd h hd
  | cons c t ih =>
    rw [List.cons_append, withoutLineEnd_cons (by simp), ih, List.cons_append]
    intro _ h
    cases t with
    | nil => exact hs (List.cons.inj h).2
    | cons d t => simp at h

theorem lines_withoutLineEnd {s l : Text} {block : List Text} (h : lines s = block ++ [l]) :
    lines (withoutLineEnd s) = block ++ lines (withoutLineEnd l) := by
  induction block generalizing s with
  | nil =>
    have hs := eq_append_of_lines h
    rw [List.flatten_nil, List.append_nil] at hs
    rw [hs, List.nil_append]
  | cons m ms ih =>
    rcases cases_of_lines h with ⟨t, ht, rfl, hms⟩ | ⟨-, -, hms⟩
    · have hs := eq_append_of_lines h
      rw [List.append_assoc, List.singleton_append] at hs
      have hne : (List.append ms [l]).flatten ≠ [] := by
        intro hnil
        rw [hnil] at hms
        exact absurd hms.symm (by simp [lines])
      rw [hs, withoutLineEnd_append_cons t (by decide) hne, lines_append_newline ht, ih hms]
      rfl
    · exact absurd hms (by simp)

theorem exists_lineEnd (t : Text) :
    ∃ e ∈ lineEnds, t ++ ['\n'] = withoutLineEnd (t ++ ['\n']) ++ e := by
  induction t with
  | nil => exact ⟨['\n'], by decide, rfl⟩
  | cons c t ih =>
    by_cases h : c = '\r' ∧ t = []
    · obtain ⟨rfl, rfl⟩ := h
      exact ⟨['\r', '\n'], by decide, rfl⟩
    · obtain ⟨e, he, ht⟩ := ih
      refine ⟨e, he, ?_⟩
      rw [List.cons_append, withoutLineEnd_cons (by simp), List.cons_append, ← ht]
      intro hc ht'
      exact h ⟨hc, by simpa using ht'⟩

theorem newline_not_mem_withoutLineEnd {t : Text} (ht : '\n' ∉ t) :
    '\n' ∉ withoutLineEnd (t ++ ['\n']) := by
  obtain ⟨e, he, h⟩ := exists_lineEnd t
  rcases mem_lineEnds.mp he with rfl | rfl
  · rwa [← List.append_cancel_right h]
  · have ht' : t ++ ['\n'] = withoutLineEnd (t ++ ['\n']) ++ ['\r'] ++ ['\n'] := by
      rw [List.append_assoc]
      exact h
    rw [List.append_cancel_right ht', List.mem_append, not_or] at ht
    exact ht.1

end NoteVault.Text
