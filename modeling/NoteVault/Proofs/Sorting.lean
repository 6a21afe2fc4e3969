import NoteVault.Query.Sort

/-! A stable sort is determined by its comparison, so that every way to sort gives the same list where the
comparison is a weak order. Elsewhere it still loses and duplicates nothing. -/

namespace NoteVault.Sorting

variable {α : Type} {less : α → α → Bool} {as bs : List α}

/-- A list in order is determined by the sequences of tied elements. -/
theorem eq_of_filter_tied_eq (h : IsWeakOrder less as) (hperm : as.Perm bs)
    (has : as.Pairwise fun a b => less b a = false)
    (hbs : bs.Pairwise fun a b => less b a = false)
    (hfilter : ∀ a ∈ as, as.filter (tied less a) = bs.filter (tied less a)) : as = bs := by
  induction as generalizing bs with
  | nil => exact hperm.nil_eq
  | cons a as ih =>
    have hne : bs ≠ [] := by
      rintro rfl
      exact List.cons_ne_nil a as hperm.eq_nil
    obtain ⟨b, bs, rfl⟩ := List.exists_cons_of_ne_nil hne
    obtain ⟨ha, has'⟩ := List.pairwise_cons.mp has
    obtain ⟨hb, hbs'⟩ := List.pairwise_cons.mp hbs
    have haa := h.irrefl (List.mem_cons_self (a := a) (l := as))
    have hbmem : b ∈ a :: as := hperm.mem_iff.mpr List.mem_cons_self
    -- Both heads are least elements, so that they begin the same sequence.
    have hab : less a b = false := by
      rcases List.mem_cons.mp (hperm.mem_iff.mp (List.mem_cons_self (a := a) (l := as))) with
        rfl | hmem
      · exact haa
      · exact hb a hmem
    have hba : less b a = false := by
      rcases List.mem_cons.mp hbmem with rfl | hmem
      · exact haa
      · exact ha b hmem
    obtain rfl : a = b := by
      have hheads := hfilter a List.mem_cons_self
      simp [tied, haa, hab, hba] at hheads
      exact hheads.1
    have hrest : as = bs := by
      refine ih (h.subset (List.subset_cons_self a as)) (hperm.cons_inv) has' hbs' fun c hc => ?_
      have hc' := hfilter c (List.mem_cons_of_mem a hc)
      rw [List.filter_cons, List.filter_cons] at hc'
      split at hc'
      · exact (List.cons.inj hc').2
      · exact hc'
    rw [hrest]

theorem IsStableSort.eq_ascending (hbs : IsStableSort less as bs) (h : IsWeakOrder less as) :
    bs = ascending less as := by
  have has := isStableSort_ascending h
  have hsub : ascending less as ⊆ as := fun a ha => (mem_ascending less).mp ha
  refine (eq_of_filter_tied_eq (h.subset hsub) (has.perm.trans hbs.perm.symm) has.ordered
    hbs.ordered fun a ha => ?_).symm
  rw [has.stable a (hsub ha), hbs.stable a (hsub ha)]

/-! ### Elements under a map -/

theorem insertDescending_map {β : Type} (f : β → α) (b : β) (bs : List β) :
    insertDescending less (f b) (bs.map f) =
      (insertDescending (fun b c => less (f b) (f c)) b bs).map f := by
  induction bs with
  | nil => rfl
  | cons c bs ih =>
    unfold insertDescending
    rw [List.map_cons]
    by_cases hbc : less (f b) (f c) = true
    · simp [hbc, ih]
    · simp [hbc]

theorem ascending_map {β : Type} (f : β → α) (bs : List β) :
    ascending less (bs.map f) = (ascending (fun b c => less (f b) (f c)) bs).map f := by
  have hfold : ∀ sorted : List β,
      (bs.map f).foldl (fun sorted a => insertDescending less a sorted) (sorted.map f) =
        (bs.foldl (fun sorted b => insertDescending (fun b c => less (f b) (f c)) b sorted)
          sorted).map f := by
    induction bs with
    | nil => exact fun _ => rfl
    | cons b bs ih =>
      intro sorted
      rw [List.map_cons, List.foldl_cons, insertDescending_map, ih, List.foldl_cons]
  rw [ascending, ascending, ← List.map_nil (f := f), hfold, List.map_reverse]

theorem isWeakOrder_map {β : Type} (f : β → α) (bs : List β) :
    IsWeakOrder less (bs.map f) ↔ IsWeakOrder (fun b c => less (f b) (f c)) bs := by
  constructor
  · intro h
    have hmem : ∀ b ∈ bs, f b ∈ bs.map f := fun b hb => List.mem_map_of_mem hb
    exact ⟨fun b hb c hc => h.asymm _ (hmem b hb) _ (hmem c hc),
      fun b hb c hc d hd => h.trans _ (hmem b hb) _ (hmem c hc) _ (hmem d hd)⟩
  · intro h
    constructor
    · simp only [List.forall_mem_map]
      exact h.asymm
    · simp only [List.forall_mem_map]
      exact h.trans

/-! ### All ways to sort -/

section Sorter

variable [Sorter]

theorem sort_eq_ascending (h : IsWeakOrder less as) :
    Sorter.sort less as = some (ascending less as) := by
  obtain ⟨bs, hbs, hstable⟩ := Sorter.exists_isStableSort h
  rw [hbs, hstable.eq_ascending h]

theorem sort_map {β : Type} {f : β → α} {bs : List β}
    (h : IsWeakOrder (fun b c => less (f b) (f c)) bs) :
    Sorter.sort less (bs.map f) = some ((ascending (fun b c => less (f b) (f c)) bs).map f) := by
  rw [sort_eq_ascending ((isWeakOrder_map f bs).mpr h), ascending_map]

theorem notes_nil (fs : Formulas) (ns : List Note) : notes fs [] ns = some ns := rfl

theorem notes_perm {fs : Formulas} {keys : List SortKey} {ns ms : List Note}
    (h : notes fs keys ns = some ms) : ms.Perm ns := by
  cases keys with
  | nil =>
    obtain rfl := Option.some.inj h
    exact List.Perm.refl _
  | cons k keys =>
    obtain ⟨pairs, hpairs, rfl⟩ := Option.map_eq_some_iff.mp h
    have hperm := (Sorter.perm hpairs).map Prod.snd
    rw [List.map_map] at hperm
    simpa [Function.comp_def] using hperm

end Sorter

instance (less : α → α → Bool) (as : List α) : Decidable (IsWeakOrder less as) :=
  decidable_of_iff ((∀ a ∈ as, ∀ b ∈ as, less a b = true → less b a = false) ∧
      ∀ a ∈ as, ∀ b ∈ as, ∀ c ∈ as, less a b = false → less b c = false → less a c = false)
    ⟨fun h => ⟨h.1, h.2⟩, fun h => ⟨h.asymm, h.trans⟩⟩

/-- Sorting that stops wherever the comparison is no weak order of the elements. -/
@[reducible] def strict : Sorter where
  sort less as := if IsWeakOrder less as then some (ascending less as) else none
  perm h := by
    obtain ⟨-, h⟩ := Option.ite_none_right_eq_some.mp h
    obtain rfl := Option.some.inj h
    exact ascending_perm _ _
  exists_isStableSort h := ⟨_, if_pos h, isStableSort_ascending h⟩

end NoteVault.Sorting
