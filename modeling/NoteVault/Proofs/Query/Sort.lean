import Mathlib.Order.Defs.LinearOrder
import NoteVault.Proofs.Sorting
import NoteVault.Proofs.Value.Comparison

/-! Sorting of notes by several keys. Where each column of values holds numbers or none, its order is
transitive, and the sorted list is the only one that is in order and keeps notes with equal values
as they were. -/

namespace NoteVault

namespace Text

theorem ofInt_ne_nil (n : Int) : ofInt n ≠ [] := by
  cases n with
  | ofNat n => exact List.ne_nil_of_length_pos Nat.length_toDigits_pos
  | negSucc n => exact List.cons_ne_nil _ _

end Text

namespace Binary64

theorem positional_ne_nil (digits : Text) (place : Int) : (positional digits place).1 ≠ [] := by
  unfold positional
  by_cases h : place ≤ 0
  · simp [h]
  · rw [if_neg h]
    apply List.ne_nil_of_length_pos
    simp only [List.length_append, List.length_take, List.length_replicate]
    omega

theorem toPlainText_ne_nil (x : Binary64) : x.toPlainText ≠ [] := by
  unfold toPlainText
  by_cases h : x.position = 0
  · simp [h]
  · have hwhole := positional_ne_nil (x.shortestDigits .up).1 (x.shortestDigits .up).2
    simp [h, hwhole]

end Binary64

theorem Number.display_ne_nil (n : Number) : n.display ≠ [] := by
  cases n with
  | int n => exact Text.ofInt_ne_nil n
  | real x =>
    rw [display]
    cases x.wholeBelow? (pow10 15) with
    | some n => exact Text.ofInt_ne_nil n
    | none => exact x.toPlainText_ne_nil

namespace Value

variable {v a b c : Option Value} {x : Binary64} {vs : List (Option Value)}

theorem displayText_ne_nil (h : finite? v = some x) : displayText v ≠ [] := by
  cases v with
  | none => simp [finite?] at h
  | some v =>
    cases v with
    | number n => exact n.display_ne_nil
    | text t =>
      rintro rfl
      have hblank : finite? (some (.text [])) = none := by decide
      rw [hblank] at h
      contradiction
    | null | bool _ | list _ | record _ => simp [finite?] at h

/-- Of some values those that have a text have a number, or none of them has one. -/
def Uniform (vs : List (Option Value)) : Prop :=
  (∀ v ∈ vs, displayText v ≠ [] → (finite? v).isSome = true) ∨ ∀ v ∈ vs, finite? v = none

instance (vs : List (Option Value)) : Decidable (Uniform vs) :=
  inferInstanceAs (Decidable (_ ∨ _))

theorem Uniform.not_torn (h : Uniform vs) (ha : a ∈ vs) (hc : c ∈ vs) : ¬ Torn a b c := by
  rintro ⟨x, y, hx, hy, hnone, -, hbc, -, -⟩
  rcases h with h | h
  · -- A value without a number has no text, and nothing stands below that.
    have hempty : displayText c = [] := by
      by_contra hne
      have hsome := h c hc hne
      simp [hnone] at hsome
    rw [hempty] at hbc
    cases hb : displayText b with
    | nil => exact displayText_ne_nil hy hb
    | cons d t => exact hbc (by rw [hb]; rfl)
  · have := h a ha
    simp [hx] at this

theorem Uniform.compare_trans (h : Uniform vs) (ha : a ∈ vs) (hb : b ∈ vs) (hc : c ∈ vs)
    (hab : compare a b ≠ .gt) (hbc : compare b c ≠ .gt) : compare a c ≠ .gt := by
  intro hac
  rcases exists_torn_of_gt hab hbc hac with ht | ht | ht
  · exact h.not_torn hc hb ht
  · exact h.not_torn hb ha ht
  · exact h.not_torn ha hc ht

end Value

namespace Sorting

variable {fs : Formulas} {k : SortKey} {keys : List SortKey} {ns : List Note}

/-- The order of two values under a sort key. -/
def compareBy (k : SortKey) (a b : Option Value) : Ordering :=
  if k.descending then (Value.compare a b).swap else Value.compare a b

theorem compareRows_cons (k : SortKey) (keys : List SortKey) (a b : Option Value)
    (as bs : List (Option Value)) :
    compareRows (k :: keys) (a :: as) (b :: bs) = (compareBy k a b).then (compareRows keys as bs) := by
  unfold compareBy
  rw [compareRows]
  cases hd : k.descending <;> cases hc : Value.compare a b <;> rfl

theorem row_cons (fs : Formulas) (k : SortKey) (keys : List SortKey) (n : Note) :
    row fs (k :: keys) n = n.resolve fs k.key :: row fs keys n := rfl

/-- The values that some notes have under a sort key. -/
def column (fs : Formulas) (k : SortKey) (ns : List Note) : List (Option Value) :=
  ns.map fun n => n.resolve fs k.key

theorem transCmp_compareBy (h : Value.Uniform (column fs k ns)) :
    Std.TransCmp fun m n : {n // n ∈ ns} =>
      compareBy k (m.1.resolve fs k.key) (n.1.resolve fs k.key) where
  eq_swap {m n} := by
    simp only [compareBy, Value.compare_swap (m.1.resolve fs k.key)]
    cases k.descending <;> simp
  isLE_trans {l m n} := by
    have hmem : ∀ n : {n // n ∈ ns}, n.1.resolve fs k.key ∈ column fs k ns :=
      fun n => List.mem_map_of_mem n.2
    have hforth := h.compare_trans (hmem l) (hmem m) (hmem n)
    have hback := h.compare_trans (hmem n) (hmem m) (hmem l)
    simp only [Ordering.isLE_iff_ne_gt, compareBy]
    cases k.descending with
    | false => exact hforth
    | true =>
      simp only [if_true, ← Value.compare_swap]
      exact fun hlm hmn => hback hmn hlm

theorem transCmp_compareRows (h : ∀ k ∈ keys, Value.Uniform (column fs k ns)) :
    Std.TransCmp fun m n : {n // n ∈ ns} =>
      compareRows keys (row fs keys m.1) (row fs keys n.1) := by
  induction keys with
  | nil => exact { eq_swap := rfl, isLE_trans := fun _ _ => rfl }
  | cons k keys ih =>
    have hkey := transCmp_compareBy (h k List.mem_cons_self)
    have hrest := ih fun l hl => h l (List.mem_cons_of_mem k hl)
    simp only [row_cons, compareRows_cons]
    exact inferInstanceAs (Std.TransCmp (compareLex _ _))

/-- Some notes in the order of sort keys; those that these do not tell apart stay in the order of
another list. -/
structure IsSortedBy (fs : Formulas) (keys : List SortKey) (ns ms : List Note) : Prop where
  perm : ms.Perm ns
  ordered : ms.Pairwise fun m n => compareRows keys (row fs keys m) (row fs keys n) ≠ .gt
  stable : ∀ n ∈ ns,
    ms.filter (fun m => compareRows keys (row fs keys n) (row fs keys m) == .eq) =
      ns.filter fun m => compareRows keys (row fs keys n) (row fs keys m) == .eq

/-- Whether sort keys put a note in front of another one. -/
def less (fs : Formulas) (keys : List SortKey) (m n : Note) : Bool :=
  compareRows keys (row fs keys m) (row fs keys n) == .lt

theorem ascending_less_nil (fs : Formulas) (ns : List Note) : ascending (less fs []) ns = ns := by
  have hless : ∀ m n, less fs [] m n = false := fun _ _ => rfl
  have hweak : IsWeakOrder (less fs []) ns :=
    ⟨fun m _ n _ _ => hless n m, fun l _ m _ n _ _ _ => hless l n⟩
  have hsame : IsStableSort (less fs []) ns ns :=
    ⟨List.Perm.refl ns, List.pairwise_of_forall fun m n => hless n m, fun _ _ => rfl⟩
  exact (hsame.eq_ascending hweak).symm

/-- Keys that order some notes sort them, in whatever way it is done. -/
theorem notes_eq_ascending [Sorter] (h : IsWeakOrder (less fs keys) ns) :
    notes fs keys ns = some (ascending (less fs keys) ns) := by
  cases keys with
  | nil => rw [notes_nil, ascending_less_nil]
  | cons k keys =>
    let before (a b : List (Option Value) × Note) : Bool := compareRows (k :: keys) a.1 b.1 == .lt
    have hsort : Sorter.sort before (ns.map fun n => (row fs (k :: keys) n, n)) =
        some ((ascending (less fs (k :: keys)) ns).map fun n => (row fs (k :: keys) n, n)) :=
      sort_map h
    unfold notes
    dsimp only
    rw [if_neg (by simp), hsort, Option.map_some, List.map_map]
    exact congrArg some (List.map_id _)

section Uniform

variable (h : ∀ k ∈ keys, Value.Uniform (column fs k ns))
include h

theorem compareRows_swap {m n : Note} (hm : m ∈ ns) (hn : n ∈ ns) :
    compareRows keys (row fs keys n) (row fs keys m) =
      (compareRows keys (row fs keys m) (row fs keys n)).swap :=
  (transCmp_compareRows h).eq_swap (a := ⟨n, hn⟩) (b := ⟨m, hm⟩)

theorem not_less_iff {m n : Note} (hm : m ∈ ns) (hn : n ∈ ns) :
    less fs keys n m = false ↔ compareRows keys (row fs keys m) (row fs keys n) ≠ .gt := by
  rw [less, compareRows_swap h hm hn]
  cases compareRows keys (row fs keys m) (row fs keys n) <;> simp

theorem tied_eq {m n : Note} (hm : m ∈ ns) (hn : n ∈ ns) :
    tied (less fs keys) m n = (compareRows keys (row fs keys m) (row fs keys n) == .eq) := by
  rw [tied, less, less, compareRows_swap h hm hn]
  cases compareRows keys (row fs keys m) (row fs keys n) <;> rfl

theorem isWeakOrder_less : IsWeakOrder (less fs keys) ns where
  asymm m hm n hn hlt := by
    rw [not_less_iff h hm hn]
    simp_all [less]
  trans l hl m hm n hn hlm hmn := by
    have htrans := (transCmp_compareRows h).isLE_trans (a := ⟨n, hn⟩) (b := ⟨m, hm⟩) (c := ⟨l, hl⟩)
    simp only [Ordering.isLE_iff_ne_gt] at htrans
    rw [not_less_iff h hm hl] at hlm
    rw [not_less_iff h hn hm] at hmn
    rw [not_less_iff h hn hl]
    exact htrans hmn hlm

theorem isSortedBy_iff {ms : List Note} :
    IsSortedBy fs keys ns ms ↔ IsStableSort (less fs keys) ns ms := by
  have hordered : ms ⊆ ns → (ms.Pairwise (fun m n => less fs keys n m = false) ↔
      ms.Pairwise fun m n => compareRows keys (row fs keys m) (row fs keys n) ≠ .gt) :=
    fun hsub => List.Pairwise.iff_of_mem fun hm hn => not_less_iff h (hsub hm) (hsub hn)
  have hstable : ∀ n ∈ ns, ∀ ls ⊆ ns, ls.filter (tied (less fs keys) n) =
      ls.filter fun m => compareRows keys (row fs keys n) (row fs keys m) == .eq :=
    fun n hn ls hsub => List.filter_congr fun m hm => tied_eq h hn (hsub hm)
  constructor
  · rintro ⟨hperm, hms, hsame⟩
    refine ⟨hperm, (hordered hperm.subset).mpr hms, fun n hn => ?_⟩
    rw [hstable n hn ms hperm.subset, hstable n hn ns (List.Subset.refl ns), hsame n hn]
  · rintro ⟨hperm, hms, hsame⟩
    refine ⟨hperm, (hordered hperm.subset).mp hms, fun n hn => ?_⟩
    rw [← hstable n hn ms hperm.subset, ← hstable n hn ns (List.Subset.refl ns), hsame n hn]

end Uniform

/-- Where each column of values holds numbers and empty values, or no number, sorting by several
keys, ascending or descending, gives the one list that is in their order and keeps notes with equal
values as they were. -/
theorem notes_isSortedBy [Sorter] (h : ∀ k ∈ keys, Value.Uniform (column fs k ns)) :
    ∃ ms, notes fs keys ns = some ms ∧ IsSortedBy fs keys ns ms ∧
      ∀ ls, IsSortedBy fs keys ns ls → ls = ms := by
  have hweak := isWeakOrder_less h
  refine ⟨_, notes_eq_ascending hweak, ?_⟩
  simp only [isSortedBy_iff h]
  exact ⟨isStableSort_ascending hweak, fun ms hms => hms.eq_ascending hweak⟩

theorem notes_isSortedBy_mixedDirections :
    let note (path : String) (fields : List (Text × Value)) : Note :=
      { Note.ofMarkdown path [] {} with frontmatter := .ofList fields }
    let ns := [note "A.md" [("p", .int 2), ("s", .text "b")],
      note "B.md" [("p", .text "10"), ("s", .text "a")], note "C.md" [("s", .text "z")],
      note "D.md" [("p", .int 2), ("s", .text "a")], note "E.md" [("p", .int 2), ("s", .text "b")]]
    let keys : List SortKey := [⟨"note.p", true⟩, ⟨"s", false⟩]
    (∀ k ∈ keys, Value.Uniform (column .empty k ns)) ∧
      ∃ ms, notes .empty keys ns = some ms ∧ IsSortedBy .empty keys ns ms ∧ ms.map Note.path =
        ["B.md".toList, "D.md".toList, "A.md".toList, "E.md".toList, "C.md".toList] := by
  intro note ns keys
  have huniform : ∀ k ∈ keys, Value.Uniform (column .empty k ns) := by decide +kernel
  obtain ⟨ms, hms, hsorted, -⟩ := notes_isSortedBy huniform
  have hpaths : (notes .empty keys ns).map (·.map Note.path) =
      some ["B.md".toList, "D.md".toList, "A.md".toList, "E.md".toList, "C.md".toList] := by
    decide +kernel
  rw [hms] at hpaths
  exact ⟨huniform, ms, hms, hsorted, Option.some.inj hpaths⟩

end Sorting

end NoteVault
