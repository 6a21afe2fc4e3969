import NoteVault.Text.Basic

/-! The pieces of a text between separators, and joining them again. -/

namespace NoteVault.Text

theorem pieces_eq_splitOnP (p : Char → Bool) (s : Text) : pieces p s = s.splitOnP p := by
  induction s with
  | nil => rfl
  | cons c s ih =>
    rw [pieces, List.splitOnP_cons_eq_if_modifyHead, ih]
    by_cases hc : p c = true
    · simp [hc]
    · obtain ⟨t, ts, hts⟩ := List.exists_cons_of_ne_nil (List.splitOnP_ne_nil p s)
      simp [hc, hts]

theorem join_eq_intercalate (sep : Text) (ts : List Text) : join sep ts = sep.intercalate ts := by
  induction ts with
  | nil => rfl
  | cons t ts ih =>
    cases ts with
    | nil => simp [join]
    | cons u us => rw [join, ih, List.intercalate_cons_cons]; simp

theorem join_pieces (s : Text) : join ['/'] (pieces (· == '/') s) = s := by
  rw [join_eq_intercalate, pieces_eq_splitOnP]
  exact List.intercalate_splitOn '/'

theorem pieces_join {ts : List Text} (hts : ts ≠ []) (h : ∀ t ∈ ts, '/' ∉ t) :
    pieces (· == '/') (join ['/'] ts) = ts := by
  rw [join_eq_intercalate, pieces_eq_splitOnP]
  exact List.splitOn_intercalate '/' h hts

theorem not_mem_of_mem_pieces {s t : Text} (h : t ∈ pieces (· == '/') s) : '/' ∉ t := by
  induction s generalizing t with
  | nil =>
    have ht : t = [] := by simpa [pieces] using h
    simp [ht]
  | cons c s ih =>
    rw [pieces_eq_splitOnP, List.splitOnP_cons_eq_if_modifyHead, ← pieces_eq_splitOnP] at h
    by_cases hc : c = '/'
    · rcases (by simpa [hc] using h : t = [] ∨ t ∈ pieces (· == '/') s) with rfl | ht
      · simp
      · exact ih ht
    · cases hs : pieces (· == '/') s with
      | nil => simp [hc, hs] at h
      | cons u us =>
        rw [hs] at ih
        rcases (by simpa [hc, hs] using h : t = c :: u ∨ t ∈ us) with rfl | ht
        · have hu := ih (t := u) List.mem_cons_self
          simp [hu, Ne.symm hc]
        · exact ih (List.mem_cons_of_mem u ht)

theorem join_append {xs ys : List Text} (hx : xs ≠ []) (hy : ys ≠ []) :
    join ['/'] (xs ++ ys) = join ['/'] xs ++ '/' :: join ['/'] ys := by
  induction xs with
  | nil => contradiction
  | cons x xs ih =>
    cases xs with
    | nil =>
      cases ys with
      | nil => contradiction
      | cons y ys => simp [join]
    | cons z zs =>
      have hstep := ih (by simp)
      simp only [List.cons_append] at hstep ⊢
      simp [join, hstep]

end NoteVault.Text
