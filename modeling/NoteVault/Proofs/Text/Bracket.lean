import NoteVault.Proofs.Text.Comma

/-! Texts inside of brackets. What closes its quotes and brackets and has no comma that separates is
so at any greater depth, where even bare commas do not separate. -/

namespace NoteVault.Text

/-- A scan with some more brackets around it. -/
def Scan.deepen (k : Int) (st : Scan) : Scan := { st with depth := st.depth + k }

theorem Scan.step_deepen (k : Int) (st : Scan) (c : Char) :
    (st.deepen k).step c = (st.step c).deepen k := by
  obtain ⟨quote, depth⟩ := st
  cases quote with
  | some q => by_cases hc : c = q <;> simp [deepen, step, hc]
  | none =>
    by_cases hq : isQuote c = true
    · simp [deepen, step, hq]
    · by_cases hopen : (c = '(' || c = '[') = true
      · simp only [deepen, step, if_neg hq, if_pos hopen]
        rw [Int.add_right_comm]
      · by_cases hclose : (c = ')' || c = ']') = true
        · simp only [deepen, step, if_neg hq, if_neg hopen, if_pos hclose]
          rw [Int.sub_eq_add_neg, Int.sub_eq_add_neg, Int.add_right_comm]
        · simp only [deepen, step, if_neg hq, if_neg hopen, if_neg hclose]

theorem Scan.foldl_step_deepen (k : Int) (st : Scan) (s : Text) :
    s.foldl Scan.step (st.deepen k) = (s.foldl Scan.step st).deepen k :=
  List.foldl_hom (Scan.deepen k) fun st c => Scan.step_deepen k st c

theorem Scan.isOpen_deepen {k : Int} {st : Scan} (hk : 0 ≤ k) (h : st.isOpen = false) :
    (st.deepen k).isOpen = false := by
  obtain ⟨quote, depth⟩ := st
  rw [isOpen, Bool.and_eq_false_iff] at h ⊢
  rcases h with hquote | hdepth
  · exact .inl hquote
  · have hout : ¬ depth ≤ 0 := of_decide_eq_false hdepth
    have hdeep : ¬ depth + k ≤ 0 := by omega
    exact .inr (decide_eq_false hdeep)

/-- A scan that begins at a depth outside of quotes ends there, and no comma separates on the way. -/
structure ClosedAt (d : Int) (s : Text) : Prop where
  foldl_step : s.foldl Scan.step ⟨none, d⟩ = ⟨none, d⟩
  not_isOpen : ∀ l r, s = l ++ ',' :: r → (l.foldl Scan.step ⟨none, d⟩).isOpen = false

variable {d : Int} {s t : Text}

theorem closedAt_zero_iff : ClosedAt 0 s ↔ CommaClosed s := by
  constructor
  · rintro ⟨hend, hopen⟩
    refine ⟨hend, fun i hi hcomma => hopen (s.take i) (s.drop (i + 1)) ?_⟩
    have hi' : s[i] = ',' := by simpa [hi] using hcomma
    rw [← hi', List.getElem_cons_drop, List.take_append_drop]
  · exact fun h => ⟨h.1, fun l r => h.not_isOpen⟩

theorem closedAt_nil (d : Int) : ClosedAt d [] := ⟨rfl, by simp⟩

theorem closedAt_comma (hd : 0 < d) : ClosedAt d [','] := by
  refine ⟨rfl, fun l r h => ?_⟩
  cases l with
  | nil => exact decide_eq_false (Int.not_le.mpr hd)
  | cons c l => simp at h

theorem closedAt_of_not_mem (h : ∀ c ∈ s, c ∉ [',', '"', '\'', '(', '[', ')', ']']) :
    ClosedAt d s := by
  have hstep : ∀ c ∈ s, ∀ st : Scan, st.quote = none → st.step c = st := by
    intro c hc st hst
    have hmark := h c hc
    simp only [List.mem_cons, List.not_mem_nil, or_false, not_or] at hmark
    simp [Scan.step, hst, isQuote, hmark]
  constructor
  · clear h
    induction s with
    | nil => rfl
    | cons c s ih =>
      rw [List.foldl_cons, hstep c List.mem_cons_self ⟨none, d⟩ rfl]
      exact ih fun e he => hstep e (List.mem_cons_of_mem c he)
  · rintro l r rfl
    exact absurd (h ',' (by simp)) (by decide)

namespace ClosedAt

theorem deepen {k : Int} (hk : 0 ≤ k) (h : ClosedAt d s) : ClosedAt (d + k) s := by
  constructor
  · have hshift := Scan.foldl_step_deepen k ⟨none, d⟩ s
    rwa [h.foldl_step] at hshift
  · intro l r hs
    have hshift := Scan.foldl_step_deepen k ⟨none, d⟩ l
    have hopen := Scan.isOpen_deepen hk (h.not_isOpen l r hs)
    rwa [← hshift] at hopen

theorem append (hs : ClosedAt d s) (ht : ClosedAt d t) : ClosedAt d (s ++ t) := by
  constructor
  · rw [List.foldl_append, hs.foldl_step, ht.foldl_step]
  · intro l r h
    rcases List.append_eq_append_iff.mp h with ⟨m, rfl, hm⟩ | ⟨m, hm, hr⟩
    · rw [List.foldl_append, hs.foldl_step]
      exact ht.not_isOpen m r hm
    · cases m with
      | nil =>
        obtain rfl : s = l := by simpa using hm
        rw [hs.foldl_step]
        exact ht.not_isOpen [] r hr.symm
      | cons c m =>
        obtain ⟨rfl, -⟩ := List.cons.inj hr
        exact hs.not_isOpen l m hm

theorem join {sep : Text} {ts : List Text} (hsep : ClosedAt d sep) (h : ∀ t ∈ ts, ClosedAt d t) :
    ClosedAt d (Text.join sep ts) := by
  induction ts with
  | nil => exact closedAt_nil d
  | cons t ts ih =>
    have ht := h t List.mem_cons_self
    cases ts with
    | nil => exact ht
    | cons u us => exact (ht.append hsep).append (ih fun v hv => h v (List.mem_cons_of_mem t hv))

theorem brackets (h : ClosedAt (d + 1) s) : ClosedAt d ('(' :: (s ++ [')'])) := by
  have hopen : Scan.step ⟨none, d⟩ '(' = ⟨none, d + 1⟩ := rfl
  have hclose : Scan.step ⟨none, d + 1⟩ ')' = ⟨none, d⟩ := by
    simp [Scan.step, isQuote]
  constructor
  · rw [List.foldl_cons, hopen, List.foldl_append, h.foldl_step, List.foldl_cons, hclose,
      List.foldl_nil]
  · intro l r hl
    cases l with
    | nil => simp at hl
    | cons c l =>
      obtain ⟨rfl, htail⟩ := List.cons.inj hl
      rw [List.foldl_cons, hopen]
      rcases List.append_eq_append_iff.mp htail with ⟨m, rfl, hm⟩ | ⟨m, hm, hr⟩
      · rcases m with _ | ⟨c, _ | ⟨e, m⟩⟩ <;> simp at hm
      · cases m with
        | nil => simp at hr
        | cons c m =>
          obtain ⟨rfl, -⟩ := List.cons.inj hr
          exact h.not_isOpen l m hm

end ClosedAt

end NoteVault.Text
