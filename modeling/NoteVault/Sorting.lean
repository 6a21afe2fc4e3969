/-! Sorting. A list is sorted stably where its comparison is a weak order of its elements. Where it is
none, a sort may stop without a result, and a result holds the elements in some order. -/

namespace NoteVault.Sorting

variable {α : Type} (less : α → α → Bool)

/-- No element is less and greater than another, and what is not less than a second one that is not
less than a third is not less than the third. -/
structure IsWeakOrder (as : List α) : Prop where
  asymm : ∀ a ∈ as, ∀ b ∈ as, less a b = true → less b a = false
  trans : ∀ a ∈ as, ∀ b ∈ as, ∀ c ∈ as, less a b = false → less b c = false → less a c = false

/-- Whether neither of two elements is less than the other. -/
def tied (a b : α) : Bool := !less a b && !less b a

/-- A list holds the elements of another one in order, and those that are tied stay as they were. -/
structure IsStableSort (as bs : List α) : Prop where
  perm : bs.Perm as
  ordered : bs.Pairwise fun a b => less b a = false
  stable : ∀ a ∈ as, bs.filter (tied less a) = as.filter (tied less a)

/-- A way to sort lists by a comparison. -/
class Sorter where
  /-- The sorted list, or none if the sort stops without one. -/
  sort {α : Type} (less : α → α → Bool) (as : List α) : Option (List α)
  perm {α : Type} {less : α → α → Bool} {as bs : List α} (h : sort less as = some bs) : bs.Perm as
  exists_isStableSort {α : Type} {less : α → α → Bool} {as : List α} (h : IsWeakOrder less as) :
    ∃ bs, sort less as = some bs ∧ IsStableSort less as bs

/-! ### Sorting by insertion -/

/-- Puts an element into a list in descending order, in front of the elements not above it. -/
def insertDescending (a : α) : List α → List α
  | [] => [a]
  | b :: bs => if less a b then b :: insertDescending a bs else a :: b :: bs

/-- The elements in ascending order; equal ones keep their order. -/
def ascending (as : List α) : List α :=
  (as.foldl (fun sorted a => insertDescending less a sorted) []).reverse

theorem insertDescending_perm (a : α) (bs : List α) :
    (insertDescending less a bs).Perm (a :: bs) := by
  induction bs with
  | nil => exact List.Perm.refl _
  | cons b bs ih =>
    unfold insertDescending
    split
    · exact (ih.cons b).trans (List.Perm.swap a b bs)
    · exact List.Perm.refl _

theorem foldl_insertDescending_perm (as sorted : List α) :
    (as.foldl (fun sorted a => insertDescending less a sorted) sorted).Perm (as ++ sorted) := by
  induction as generalizing sorted with
  | nil => exact List.Perm.refl _
  | cons a as ih =>
    have hinsert := (insertDescending_perm less a sorted).append_left as
    exact (ih _).trans (hinsert.trans List.perm_middle)

theorem ascending_perm (as : List α) : (ascending less as).Perm as := by
  have h := foldl_insertDescending_perm less as []
  rw [List.append_nil] at h
  exact (List.reverse_perm _).trans h

theorem mem_insertDescending {a b : α} {bs : List α} :
    b ∈ insertDescending less a bs ↔ b = a ∨ b ∈ bs := by
  rw [(insertDescending_perm less a bs).mem_iff, List.mem_cons]

theorem mem_ascending {a : α} {as : List α} : a ∈ ascending less as ↔ a ∈ as :=
  (ascending_perm less as).mem_iff

/-! ### Order -/

variable {less} {as bs : List α}

theorem IsWeakOrder.subset (h : IsWeakOrder less as) (hsub : bs ⊆ as) : IsWeakOrder less bs where
  asymm a ha b hb := h.asymm a (hsub ha) b (hsub hb)
  trans a ha b hb c hc := h.trans a (hsub ha) b (hsub hb) c (hsub hc)

theorem IsWeakOrder.irrefl (h : IsWeakOrder less as) {a : α} (ha : a ∈ as) : less a a = false := by
  cases haa : less a a with
  | false => rfl
  | true => exact haa.symm.trans (h.asymm a ha a ha haa)

theorem pairwise_insertDescending {a : α} (h : IsWeakOrder less (a :: bs))
    (hbs : bs.Pairwise fun b c => less b c = false) :
    (insertDescending less a bs).Pairwise fun b c => less b c = false := by
  induction bs with
  | nil => exact List.pairwise_singleton _ a
  | cons b bs ih =>
    obtain ⟨hb, hbs'⟩ := List.pairwise_cons.mp hbs
    have hsub : a :: bs ⊆ a :: b :: bs := List.cons_subset_cons a (List.subset_cons_self b bs)
    unfold insertDescending
    by_cases hab : less a b = true
    · rw [if_pos hab, List.pairwise_cons]
      refine ⟨fun c hc => ?_, ih (h.subset hsub) hbs'⟩
      rcases (mem_insertDescending less).mp hc with rfl | hc
      · exact h.asymm c (by simp) b (by simp) hab
      · exact hb c hc
    · have hab' : less a b = false := by simpa using hab
      rw [if_neg hab, List.pairwise_cons]
      refine ⟨fun c hc => ?_, hbs⟩
      rcases List.mem_cons.mp hc with rfl | hc
      · exact hab'
      · exact h.trans a (by simp) b (by simp) c (by simp [hc]) hab' (hb c hc)

theorem pairwise_foldl_insertDescending (h : IsWeakOrder less (as ++ bs))
    (hbs : bs.Pairwise fun b c => less b c = false) :
    (as.foldl (fun sorted a => insertDescending less a sorted) bs).Pairwise
      fun b c => less b c = false := by
  induction as generalizing bs with
  | nil => exact hbs
  | cons a as ih =>
    refine ih (h.subset fun b hb => ?_) (pairwise_insertDescending (h.subset fun b hb => ?_) hbs)
    · have hb' : b ∈ as ∨ b = a ∨ b ∈ bs := by simpa [mem_insertDescending] using hb
      rcases hb' with hb | rfl | hb <;> simp [*]
    · rcases List.mem_cons.mp hb with rfl | hb <;> simp [*]

theorem pairwise_ascending (h : IsWeakOrder less as) :
    (ascending less as).Pairwise fun a b => less b a = false := by
  have hfold := pairwise_foldl_insertDescending (by simpa using h) (List.Pairwise.nil)
  exact List.pairwise_reverse.mpr hfold

/-! ### Stability -/

theorem filter_insertDescending {p : α → Bool} {a : α}
    (h : ∀ b ∈ bs, p a = true → p b = true → less a b = false) :
    (insertDescending less a bs).filter p = (a :: bs).filter p := by
  induction bs with
  | nil => rfl
  | cons b bs ih =>
    have ih := ih fun c hc => h c (List.mem_cons_of_mem b hc)
    unfold insertDescending
    by_cases hab : less a b = true
    · have hnot : p a = true → p b = false := by
        intro ha
        have hb := h b (by simp) ha
        simpa [hab] using hb
      rw [if_pos hab, List.filter_cons, ih]
      cases ha : p a <;> cases hb : p b <;> simp_all
    · rw [if_neg hab]

theorem filter_foldl_insertDescending {p : α → Bool}
    (h : ∀ a ∈ as, ∀ b ∈ as ++ bs, p a = true → p b = true → less a b = false) :
    (as.foldl (fun sorted a => insertDescending less a sorted) bs).filter p =
      (as.filter p).reverse ++ bs.filter p := by
  induction as generalizing bs with
  | nil => rfl
  | cons a as ih =>
    have hstep : (insertDescending less a bs).filter p = (a :: bs).filter p :=
      filter_insertDescending fun b hb => h a (by simp) b (by simp [hb])
    have hrest : ∀ c ∈ as, ∀ b ∈ as ++ insertDescending less a bs, p c = true → p b = true →
        less c b = false := by
      intro c hc b hb
      have hb' : b ∈ as ∨ b = a ∨ b ∈ bs := by simpa [mem_insertDescending] using hb
      refine h c (by simp [hc]) b ?_
      rcases hb' with hb | rfl | hb <;> simp [*]
    rw [List.foldl_cons, ih hrest, hstep, List.filter_cons, List.filter_cons]
    split <;> simp

/-- Elements that are not told apart stay in the order in which they came. -/
theorem filter_ascending {p : α → Bool}
    (h : ∀ a ∈ as, ∀ b ∈ as, p a = true → p b = true → less a b = false) :
    (ascending less as).filter p = as.filter p := by
  have hfold : (as.foldl (fun sorted a => insertDescending less a sorted) []).filter p =
      (as.filter p).reverse ++ [] := filter_foldl_insertDescending (by simpa using h)
  rw [ascending, List.filter_reverse, hfold]
  simp

theorem isStableSort_ascending (h : IsWeakOrder less as) :
    IsStableSort less as (ascending less as) := by
  refine ⟨ascending_perm less as, pairwise_ascending h, fun a ha => ?_⟩
  refine filter_ascending fun b hb c hc hab hac => ?_
  simp only [tied, Bool.and_eq_true, Bool.not_eq_true'] at hab hac
  exact h.trans b hb a ha c hc hab.2 hac.1

instance byInsertion : Sorter where
  sort less as := some (ascending less as)
  perm {_ less as _} h := by
    obtain rfl := Option.some.inj h
    exact ascending_perm less as
  exists_isStableSort h := ⟨_, rfl, isStableSort_ascending h⟩

end NoteVault.Sorting
