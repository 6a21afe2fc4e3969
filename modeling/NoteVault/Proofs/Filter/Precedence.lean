import NoteVault.Proofs.Filter.Outcome
import NoteVault.Proofs.Filter.Splitting

/-! Statements that connectives join have the outcome of the tree that they write: `and` binds
tighter than `or`, and what a decided connective skips gives no warnings. -/

namespace NoteVault

/-- A text that no connective takes apart: it is trimmed, its quotes are closed, and neither
connective stands outside of them. -/
structure IsAtom (s : Text) : Prop where
  ne_nil : s ≠ []
  trimmed : Text.trim s = s
  closed : Text.openQuote s = none
  disjunction : Connective.disjunction.Absent s
  conjunction : Connective.conjunction.Absent s

theorem isAtom_iff {s : Text} : IsAtom s ↔ s ≠ [] ∧ Text.trim s = s ∧ Text.openQuote s = none ∧
    Connective.disjunction.Absent s ∧ Connective.conjunction.Absent s :=
  ⟨fun ⟨h₁, h₂, h₃, h₄, h₅⟩ => ⟨h₁, h₂, h₃, h₄, h₅⟩,
    fun ⟨h₁, h₂, h₃, h₄, h₅⟩ => ⟨h₁, h₂, h₃, h₄, h₅⟩⟩

instance (s : Text) : Decidable (IsAtom s) := decidable_of_iff' _ isAtom_iff

/-- The text of some rows of atoms: `and` between the atoms of a row and `or` between rows, each
time as the word in any case or as the symbol. -/
def Writes (rows : List (List Text)) (s : Text) : Prop :=
  ∃ parts : List Text, List.Forall₂ Connective.conjunction.Joined rows parts ∧
    Connective.disjunction.Joined parts s

namespace IsAtom

variable {s : Text}

theorem block_disjunction (h : IsAtom s) : Connective.disjunction.Block s :=
  h.disjunction.block Connective.plain_disjunction h.ne_nil (Text.trim_eq_self_iff.mp h.trimmed)
    h.closed

theorem block_conjunction (h : IsAtom s) : Connective.conjunction.Block s :=
  h.conjunction.block Connective.plain_conjunction h.ne_nil (Text.trim_eq_self_iff.mp h.trimmed)
    h.closed

end IsAtom

/-- The filter tree that rows of statements stand for. -/
def Filter.ofRows (rows : List (List Text)) : Filter :=
  .any (rows.map fun row => .all (row.map .statement))

theorem Filter.evaluate_ofRows (n : Note) (fs : Formulas) (rows : List (List Text)) :
    Filter.evaluate n fs (some (.ofRows rows)) =
      .any (rows.map fun row => .all (row.map (Condition.evaluate n fs))) := by
  simp only [Filter.evaluate, Filter.ofRows, Option.map_some, Option.getD_some, Filter.outcome,
    Filter.outcomes_eq_map, List.map_map, Function.comp_def]

namespace Condition

variable {s : Text}

theorem ofText_any (hne : s ≠ []) (ht : Text.trim s = s)
    (h : 1 < (Connective.disjunction.split s).length) :
    ofText s = .any ((Connective.disjunction.split s).map ofText) := by
  rw [ofText]
  simp only [ht, List.isEmpty_iff, hne, h, if_true, if_false, List.attach_map_val]

theorem ofText_all (hne : s ≠ []) (ht : Text.trim s = s)
    (h : (Connective.disjunction.split s).length = 1)
    (h' : 1 < (Connective.conjunction.split s).length) :
    ofText s = .all ((Connective.conjunction.split s).map ofText) := by
  rw [ofText]
  simp only [ht, List.isEmpty_iff, hne, h, h', Nat.lt_irrefl, if_true, if_false,
    List.attach_map_val]

/-- A row of atoms passes as their conjunction does. -/
theorem evaluate_row (n : Note) (fs : Formulas) {row : List Text}
    (hrow : ∀ a ∈ row, IsAtom a) (h : Connective.conjunction.Joined row s) :
    evaluate n fs s = .all (row.map (evaluate n fs)) := by
  have hsplit := h.split_eq Connective.plain_conjunction fun a ha => (hrow a ha).block_conjunction
  have hblock := h.block Connective.foreign_disjunction_conjunction Connective.plain_conjunction
    fun a ha => (hrow a ha).block_disjunction
  have hwhole : Connective.disjunction.split s = [s] :=
    (Connective.Joined.single s).split_eq Connective.plain_disjunction (by simpa using hblock)
  cases h with
  | single => simp [Outcome.all_singleton]
  | @cons t sep s ts hsep hs =>
    have hlen : 1 < (Connective.conjunction.split (t ++ sep ++ s)).length := by
      have hts := List.length_pos_iff.mpr hs.ne_nil
      rw [hsplit, List.length_cons]
      omega
    rw [evaluate, ofText_all hblock.ne_nil (Text.trim_eq_self_iff.mpr hblock.trimmed)
      (by rw [hwhole]; rfl) hlen, hsplit, outcome, outcomes_eq_map, List.map_map]
    rfl

/-- Rows of atoms pass as the disjunction of their conjunctions does. -/
theorem evaluate_rows (n : Note) (fs : Formulas) {rows : List (List Text)}
    (hrows : ∀ row ∈ rows, ∀ a ∈ row, IsAtom a) (h : Writes rows s) :
    evaluate n fs s = .any (rows.map fun row => .all (row.map (evaluate n fs))) := by
  obtain ⟨parts, hparts, h⟩ := h
  have hparts : (∀ t ∈ parts, Connective.disjunction.Block t) ∧
      parts.map (evaluate n fs) = rows.map fun row => .all (row.map (evaluate n fs)) := by
    clear h
    induction hparts with
    | nil => exact ⟨by simp, rfl⟩
    | @cons row part rows parts hrow _ ih =>
      have hatoms := hrows row (by simp)
      obtain ⟨hblock, hmap⟩ := ih fun r hr => hrows r (List.mem_cons_of_mem _ hr)
      refine ⟨List.forall_mem_cons.mpr ⟨?_, hblock⟩, ?_⟩
      · exact hrow.block Connective.foreign_disjunction_conjunction Connective.plain_conjunction
          fun a ha => (hatoms a ha).block_disjunction
      · rw [List.map_cons, List.map_cons, evaluate_row n fs hatoms hrow, hmap]
  obtain ⟨hblock, hmap⟩ := hparts
  rw [← hmap]
  have hsplit := h.split_eq Connective.plain_disjunction hblock
  obtain ⟨hne, htrimmed⟩ := h.trimmed fun t ht => ⟨(hblock t ht).ne_nil, (hblock t ht).trimmed⟩
  cases h with
  | single => simp [Outcome.any_singleton]
  | @cons t sep s ts hsep hs =>
    have hlen : 1 < (Connective.disjunction.split (t ++ sep ++ s)).length := by
      have hts := List.length_pos_iff.mpr hs.ne_nil
      rw [hsplit, List.length_cons]
      omega
    rw [evaluate, ofText_any hne (Text.trim_eq_self_iff.mpr htrimmed) hlen, hsplit, outcome,
      outcomes_eq_map, List.map_map]
    rfl

end Condition

/-- A statement that connectives join from atoms has the outcome of the filter tree that it writes:
it passes if all atoms of some row pass, and its warnings are those of the atoms up to the first
that fails, in the rows up to the first that passes. -/
theorem evaluate_written_rows (n : Note) (fs : Formulas) {rows : List (List Text)} {s : Text}
    (hrows : ∀ row ∈ rows, ∀ a ∈ row, IsAtom a) (hs : Writes rows s) :
    Condition.evaluate n fs s = Filter.evaluate n fs (some (.ofRows rows)) ∧
      (Condition.evaluate n fs s).ok =
        rows.any (fun row => row.all fun a => (Condition.evaluate n fs a).ok) ∧
      (Condition.evaluate n fs s).warnings =
        (upTo (fun row => row.all fun a => (Condition.evaluate n fs a).ok) rows).flatMap fun row =>
          (upTo (fun a => !(Condition.evaluate n fs a).ok) row).flatMap fun a =>
            (Condition.evaluate n fs a).warnings := by
  have heval := Condition.evaluate_rows n fs hrows hs
  refine ⟨heval.trans (Filter.evaluate_ofRows n fs rows).symm, ?_, ?_⟩
  · rw [heval, Outcome.ok_any]
    simp [Outcome.ok_all, List.any_map, List.all_map, Function.comp_def]
  · rw [heval, Outcome.warnings_any, upTo_map]
    simp [Outcome.ok_all, Outcome.warnings_all, upTo_map, List.all_map, List.flatMap_map,
      Function.comp_def]

theorem evaluate_written_rows_mixed :
    let n := Note.ofMarkdown "A.md" [] {}
    let rows : List (List Text) := [["file.size > 3", "'a or b'"], ["%%"]]
    (∀ row ∈ rows, ∀ a ∈ row, IsAtom a) ∧
      Writes rows "file.size > 3 AnD 'a or b' || %%".toList ∧
      Condition.evaluate n .empty "file.size > 3 AnD 'a or b' || %%".toList =
        Filter.evaluate n .empty (some (.ofRows rows)) := by
  intro n rows
  have hrows : ∀ row ∈ rows, ∀ a ∈ row, IsAtom a := by decide
  have hs : Writes rows "file.size > 3 AnD 'a or b' || %%".toList := by
    refine ⟨["file.size > 3 AnD 'a or b'", "%%"], .cons ?_ (.cons (.single _) .nil), ?_⟩
    · exact @Connective.Joined.cons _ "file.size > 3" " AnD " _ _ ⟨"AnD", rfl, .inr (by decide)⟩
        (.single _)
    · exact @Connective.Joined.cons _ "file.size > 3 AnD 'a or b'" " || " _ _
        ⟨"||", rfl, .inl rfl⟩ (.single _)
  exact ⟨hrows, hs, (evaluate_written_rows n .empty hrows hs).1⟩

end NoteVault
