import NoteVault.Filter.Basic

/-! Outcomes of conjunctions and disjunctions: who passes, and whose warnings are kept. -/

namespace NoteVault

/-- The beginning of a list up to the first element that satisfies `p`, that element included. -/
def upTo {α : Type} (p : α → Bool) : List α → List α
  | [] => []
  | a :: as => if p a then [a] else a :: upTo p as

namespace Outcome

theorem all_singleton (o : Outcome) : all [o] = o := by
  obtain ⟨ok, warnings⟩ := o
  cases ok <;> simp [all, pass]

theorem any_singleton (o : Outcome) : any [o] = o := by
  obtain ⟨ok, warnings⟩ := o
  cases ok <;> simp [any, of]

theorem ok_all (os : List Outcome) : (all os).ok = os.all ok := by
  induction os with
  | nil => rfl
  | cons o os ih =>
    unfold all
    split
    · next h => simp [h, ih]
    · next h => simp [h]

theorem ok_any (os : List Outcome) : (any os).ok = os.any ok := by
  induction os with
  | nil => rfl
  | cons o os ih =>
    unfold any
    split
    · next h => simp [h]
    · next h => simp [h, ih]

theorem warnings_all (os : List Outcome) :
    (all os).warnings = (upTo (fun o => !o.ok) os).flatMap warnings := by
  induction os with
  | nil => rfl
  | cons o os ih =>
    unfold all upTo
    by_cases h : o.ok = true <;> simp [h, ih]

theorem warnings_any (os : List Outcome) :
    (any os).warnings = (upTo ok os).flatMap warnings := by
  induction os with
  | nil => rfl
  | cons o os ih =>
    unfold any upTo
    by_cases h : o.ok = true <;> simp [h, ih]

theorem negate_negate (o : Outcome) : o.negate.negate = o := by
  simp [negate]

theorem any_eq_negate_all (os : List Outcome) : any os = (all (os.map negate)).negate := by
  induction os with
  | nil => rfl
  | cons o os ih =>
    obtain ⟨ok, warnings⟩ := o
    cases ok <;> simp [any, all, negate, ih]

theorem all_cons_all (inner post : List Outcome) : all (all inner :: post) = all (inner ++ post) := by
  induction inner with
  | nil => simp [all, pass]
  | cons o inner ih =>
    obtain ⟨ok, warnings⟩ := o
    cases ok with
    | true =>
      simp only [all, List.cons_append, if_true, ← ih]
      cases hok : (all inner).ok <;> simp [hok]
    | false => simp [all]

theorem all_flatten (pre inner post : List Outcome) :
    all (pre ++ all inner :: post) = all (pre ++ inner ++ post) := by
  induction pre with
  | nil => exact all_cons_all inner post
  | cons o pre ih => simp only [List.cons_append, all, ih]

end Outcome

theorem upTo_map {α β : Type} (p : β → Bool) (f : α → β) (as : List α) :
    upTo p (as.map f) = (upTo (fun a => p (f a)) as).map f := by
  induction as with
  | nil => rfl
  | cons a as ih =>
    by_cases h : p (f a) = true <;> simp [upTo, h, ih]

theorem mem_of_mem_upTo {α : Type} {p : α → Bool} {a : α} {as : List α} (h : a ∈ upTo p as) :
    a ∈ as := by
  induction as with
  | nil => contradiction
  | cons b as ih =>
    by_cases hb : p b = true
    · have hmem : a = b := by simpa [upTo, hb] using h
      simp [hmem]
    · have hmem : a = b ∨ a ∈ upTo p as := by simpa [upTo, hb] using h
      rcases hmem with rfl | hmem
      · simp
      · simp [ih hmem]

theorem Filter.outcomes_eq_map (n : Note) (fs : Formulas) (gs : List Filter) :
    Filter.outcomes n fs gs = gs.map (Filter.outcome n fs) := by
  induction gs with
  | nil => rfl
  | cons g gs ih => rw [Filter.outcomes, ih, List.map_cons]

theorem Condition.outcomes_eq_map (n : Note) (fs : Formulas) (cs : List Condition) :
    Condition.outcomes n fs cs = cs.map (Condition.outcome n fs) := by
  induction cs with
  | nil => rfl
  | cons c cs ih => rw [Condition.outcomes, ih, List.map_cons]

end NoteVault
