import NoteVault.Proofs.Formula.Branch
import NoteVault.Proofs.Formula.Hop
import NoteVault.Proofs.Text.Bracket

/-! Ladders of conditions, `if(k, 't', if(…))` with as many rungs as one likes. A branch of `if` counts
as much as a hop to a formula does, so that only the first rungs of a long ladder are tried. -/

namespace NoteVault

namespace Formula

variable {n : Note} {fs : Formulas} {last : Text}

theorem commaClosed_ifText {test yes no : Text} (htest : Text.CommaClosed test)
    (hyes : Text.CommaClosed yes) (hno : Text.CommaClosed no) :
    Text.CommaClosed (ifText test yes no) := by
  rw [← Text.closedAt_zero_iff] at *
  have hname : Text.ClosedAt 0 ['i', 'f'] := Text.closedAt_of_not_mem (by simp)
  have hcomma : Text.ClosedAt (0 + 1) [','] := Text.closedAt_comma Int.one_pos
  have hblank : Text.ClosedAt (0 + 1) [' '] := Text.closedAt_of_not_mem (by simp)
  have harguments : Text.ClosedAt (0 + 1) (Text.join [',', ' '] [test, yes, no]) := by
    apply Text.ClosedAt.join (hcomma.append hblank)
    simp only [List.forall_mem_cons]
    exact ⟨htest.deepen (by decide), hyes.deepen (by decide), hno.deepen (by decide), by simp⟩
  exact hname.append harguments.brackets

/-- A condition on the data of a note, and the text to choose if it holds. -/
structure Rung where
  key : Text
  text : Text
  isData : Reference.IsData key
  ne_null : key ≠ "null".toList
  isNumeral : Literal.isNumeral key = false
  isQuote : text.any Text.isQuote = false

namespace Rung

/-- Whether the data that a rung names is there and truthy. -/
def holds (n : Note) (fs : Formulas) (rung : Rung) : Bool := Value.isTruthy (n.resolve fs rung.key)

theorem commaClosed_key (rung : Rung) : Text.CommaClosed rung.key := by
  refine Text.closedAt_zero_iff.mp (Text.closedAt_of_not_mem fun c hc hmark => ?_)
  have hpath := Reference.isPathChar_of_isToken rung.isData.isToken c hc
  simp only [List.mem_cons, List.not_mem_nil, or_false] at hmark
  rcases hmark with rfl | rfl | rfl | rfl | rfl | rfl | rfl <;> exact absurd hpath (by decide)

theorem valueWithin_key (rung : Rung) (left : Nat) :
    valueWithin n fs (left + 1) (ofText rung.key) = n.resolve fs rung.key := by
  rw [ofText_reference rung.isData.isToken rung.ne_null rung.isNumeral]
  exact Note.resolveWithin_of_isData rung.isData left

end Rung

theorem commaClosed_singleQuoted {t : Text} (h : t.any Text.isQuote = false) :
    Text.CommaClosed (Text.quoted '\'' t) :=
  Text.commaClosed_quoted rfl fun hmem => List.any_eq_false.mp h '\'' hmem rfl

/-- Rungs, each one in the branch of the one before, and the text to choose if none holds. -/
def ladder (last : Text) : List Rung → Text
  | [] => Text.quoted '\'' last
  | rung :: rungs => ifText rung.key (Text.quoted '\'' rung.text) (ladder last rungs)

/-- The text of the first rung that holds. -/
def chosen (n : Note) (fs : Formulas) (last : Text) (rungs : List Rung) : Text :=
  ((rungs.find? (Rung.holds n fs)).map Rung.text).getD last

/-- The first rungs decide on a ladder: one of them holds, or there are no more. -/
def Decided (n : Note) (fs : Formulas) (count : Nat) (rungs : List Rung) : Prop :=
  rungs.length ≤ count ∨ ∃ rung ∈ rungs.take count, rung.holds n fs = true

instance (n : Note) (fs : Formulas) (count : Nat) (rungs : List Rung) :
    Decidable (Decided n fs count rungs) := inferInstanceAs (Decidable (_ ∨ _))

variable {rung : Rung} {rungs : List Rung} {count : Nat}

theorem not_decided_zero : ¬ Decided n fs 0 (rung :: rungs) := by
  simp [Decided]

theorem decided_of_holds (h : rung.holds n fs = true) : Decided n fs (count + 1) (rung :: rungs) :=
  .inr ⟨rung, by simp, h⟩

theorem decided_succ_iff (h : rung.holds n fs = false) :
    Decided n fs (count + 1) (rung :: rungs) ↔ Decided n fs count rungs := by
  simp [Decided, h]

theorem commaClosed_ladder (hlast : last.any Text.isQuote = false) (rungs : List Rung) :
    Text.CommaClosed (ladder last rungs) := by
  induction rungs with
  | nil => exact commaClosed_singleQuoted hlast
  | cons rung rungs ih =>
    exact commaClosed_ifText rung.commaClosed_key (commaClosed_singleQuoted rung.isQuote) ih

theorem ofText_ladder_cons (hlast : last.any Text.isQuote = false) (rung : Rung)
    (rungs : List Rung) : ofText (ladder last (rung :: rungs)) =
      .cond (ofText rung.key) (.literal (.text rung.text)) (ofText (ladder last rungs)) := by
  have hclosed := commaClosed_ladder hlast rungs
  have htext := commaClosed_singleQuoted rung.isQuote
  rw [ladder, ofText_ifText rung.commaClosed_key htext hclosed, ofText_quoted rfl]

/-- Each rung that is passed uses up one of the branches that may be entered. -/
theorem valueWithin_ladder (hlast : last.any Text.isQuote = false) (rungs : List Rung)
    (left : Nat) : valueWithin n fs (left + 1) (ofText (ladder last rungs)) =
      if Decided n fs left rungs then some (.text (chosen n fs last rungs)) else none := by
  induction rungs generalizing left with
  | nil =>
    have hdecided : Decided n fs left [] := .inl (Nat.zero_le left)
    rw [ladder, ofText_quoted rfl, if_pos hdecided]
    rfl
  | cons rung rungs ih =>
    rw [ofText_ladder_cons hlast, valueWithin]
    cases left with
    | zero =>
      rw [if_neg not_decided_zero]
      rfl
    | succ left =>
      have htest : Value.isTruthy (n.resolve fs rung.key) = rung.holds n fs := rfl
      rw [rung.valueWithin_key, htest]
      cases hholds : rung.holds n fs with
      | true =>
        rw [if_pos rfl, if_pos (decided_of_holds hholds)]
        simp [valueWithin, chosen, hholds]
      | false =>
        rw [if_neg (by decide), ih left]
        simp only [decided_succ_iff hholds, chosen, List.find?_cons, hholds]

/-- A ladder has the text of the first rung that holds just if the first `maxDepth` rungs decide on it,
and else it has no value. -/
theorem evaluate_ladder_eq_chosen_iff (n : Note) (fs : Formulas)
    (hlast : last.any Text.isQuote = false) (rungs : List Rung) :
    (evaluate n fs (ladder last rungs) = some (.text (chosen n fs last rungs)) ↔
        Decided n fs maxDepth rungs) ∧
      (¬ Decided n fs maxDepth rungs → evaluate n fs (ladder last rungs) = none) := by
  rw [evaluate, valueWithin_ladder hlast]
  split <;> simp [*]

/-- A rung for a bare key. -/
def openRung : Rung := ⟨"open", "waiting", by decide, by decide, by decide, by decide⟩

def doneRung : Rung := ⟨"done", "finished", by decide, by decide, by decide, by decide⟩

theorem evaluate_ladder_eq_chosen_iff_done :
    let n : Note := { Note.ofMarkdown "A.md" [] {} with
      frontmatter := .ofList [("done".toList, .bool true)] }
    let early := List.replicate 15 openRung ++ [doneRung, openRung, openRung]
    let late := List.replicate 16 openRung ++ [doneRung]
    "unknown".toList.any Text.isQuote = false ∧
      evaluate n .empty (ladder "unknown" early) = some (.text "finished") ∧
      evaluate n .empty (ladder "unknown" late) = none := by
  intro n early late
  have hlast : "unknown".toList.any Text.isQuote = false := by decide
  have hearly := (evaluate_ladder_eq_chosen_iff n .empty hlast early).1.mpr (by decide +kernel)
  have hlate := (evaluate_ladder_eq_chosen_iff n .empty hlast late).2 (by decide +kernel)
  exact ⟨hlast, hearly, hlate⟩

/-- A ladder of seventeen rungs of which none holds has no value. -/
theorem evaluate_ladder_tooLong :
    let n := Note.ofMarkdown "A.md" [] {}
    let rungs := List.replicate 17 openRung
    chosen n .empty "unknown" rungs = "unknown".toList ∧
      evaluate n .empty (ladder "unknown" rungs) = none := by
  intro n rungs
  have hlast : "unknown".toList.any Text.isQuote = false := by decide
  have hopen : ¬ Decided n .empty maxDepth rungs := by decide +kernel
  refine ⟨by decide +kernel, ?_⟩
  rw [evaluate, valueWithin_ladder hlast, if_neg hopen]

end Formula

end NoteVault
