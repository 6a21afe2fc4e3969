import NoteVault.Proofs.Text.OpenQuote
import NoteVault.Proofs.Text.Separation

/-! Splitting at commas undoes joining with them, where each joined text closes its quotes and brackets
and has no comma that separates. -/

namespace NoteVault.Text

/-- A scan that begins outside of quotes and brackets ends there, and no comma separates on the
way. -/
def CommaClosed (s : Text) : Prop :=
  s.foldl Scan.step {} = {} ∧
    ∀ i < s.length, s[i]? = some ',' → ((s.take i).foldl Scan.step {}).isOpen = false

instance (s : Text) : Decidable (CommaClosed s) := inferInstanceAs (Decidable (_ ∧ _))

variable {s t : Text} {ts : List Text}

theorem CommaClosed.not_isOpen (h : CommaClosed s) {l r : Text} (hs : s = l ++ ',' :: r) :
    (l.foldl Scan.step {}).isOpen = false := by
  have hcomma := h.2 l.length (by simp [hs]) (by simp [hs])
  simpa [hs] using hcomma

theorem CommaClosed.unbroken (h : CommaClosed s) : Unbroken {} s := fun _ _ hs => h.not_isOpen hs

theorem CommaClosed.blank_cons {c : Char} (hc : isBlank c = true) (h : CommaClosed s) :
    CommaClosed (c :: s) := by
  have hstep := Scan.isProper_start.step_of_isBlank hc
  refine ⟨by rw [List.foldl_cons, hstep, h.1], fun i hi hcomma => ?_⟩
  cases i with
  | zero =>
    obtain rfl : c = ',' := by simpa using hcomma
    exact absurd hc (by decide)
  | succ i =>
    rw [List.take_succ_cons, List.foldl_cons, hstep]
    exact h.2 i (by simpa using hi) (by simpa using hcomma)

theorem foldl_step_of_not_mem {q : Char} {d : Int} (hs : q ∉ s) :
    s.foldl Scan.step ⟨some q, d⟩ = ⟨some q, d⟩ := by
  induction s with
  | nil => rfl
  | cons c s ih =>
    simp only [List.mem_cons, not_or] at hs
    have hstep : Scan.step ⟨some q, d⟩ c = ⟨some q, d⟩ := if_neg (Ne.symm hs.1)
    rw [List.foldl_cons, hstep, ih hs.2]

theorem commaClosed_quoted {q : Char} (hq : isQuote q = true) (ht : q ∉ t) :
    CommaClosed (quoted q t) := by
  have hopen : Scan.step {} q = ⟨some q, 0⟩ := if_pos hq
  have hclose : Scan.step ⟨some q, 0⟩ q = {} := if_pos rfl
  refine ⟨?_, fun i hi hcomma => ?_⟩
  · rw [quoted, List.foldl_cons, hopen, List.foldl_append, foldl_step_of_not_mem ht,
      List.foldl_cons, hclose, List.foldl_nil]
  · cases i with
    | zero =>
      obtain rfl : q = ',' := by simpa [quoted] using hcomma
      exact absurd hq (by decide)
    | succ i =>
      have hle : i ≤ t.length := by simpa [quoted, Nat.lt_succ_iff] using hi
      have hinside : q ∉ t.take i := fun hmem => ht (List.mem_of_mem_take hmem)
      rw [quoted, List.take_succ_cons, List.take_append_of_le_length hle, List.foldl_cons, hopen,
        foldl_step_of_not_mem hinside]
      rfl

theorem separated_of_commaClosed (hts : ts ≠ []) (h : ∀ t ∈ ts, CommaClosed t) :
    Separated {} ts := by
  induction ts with
  | nil => contradiction
  | cons t ts ih =>
    have ht := h t List.mem_cons_self
    cases ts with
    | nil => exact .last ht.unbroken
    | cons u us =>
      have hrest := ih (List.cons_ne_nil u us) fun v hv => h v (List.mem_cons_of_mem t hv)
      rw [← ht.1] at hrest
      exact .next ht.unbroken (by rw [ht.1]; rfl) hrest

theorem splitCommas_join (hts : ts ≠ []) (h : ∀ t ∈ ts, CommaClosed t) :
    splitCommas (join [','] ts) = ts.map trim := by
  rw [splitCommas, (separated_of_commaClosed hts h).commaPieces_join]

theorem splitCommas_quoted {q : Char} (hq : isQuote q = true) (ht : q ∉ t) :
    splitCommas (quoted q t) = [quoted q t] := by
  have hclosed : ∀ u ∈ [quoted q t], CommaClosed u := by
    intro u hu
    rw [List.mem_singleton.mp hu]
    exact commaClosed_quoted hq ht
  have hsplit := splitCommas_join (List.cons_ne_nil _ _) hclosed
  rwa [List.map_singleton, trim_eq_self_iff.mpr (trimmed_quoted hq t)] at hsplit

end NoteVault.Text
