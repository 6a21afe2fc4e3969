import NoteVault.Proofs.Formula.Call
import NoteVault.Proofs.Text.Comma

/-! The formula `if(…)` is cut at the commas between its arguments, whatever these hold inside of quotes
and brackets, and its value is that of the branch that its test chooses. -/

namespace NoteVault

namespace Formula

variable {test yes no : Text}

/-- A call of `if` with its arguments. -/
def ifCall (arguments : Text) : Text := 'i' :: 'f' :: '(' :: (arguments ++ [')'])

theorem ifArguments?_ifCall (arguments : Text) :
    ifArguments? (ifCall arguments) = some arguments := by
  have hstart : Text.trimStart ('(' :: (arguments ++ [')'])) = '(' :: (arguments ++ [')']) :=
    Text.trimStart_eq_self_iff.mpr (by simp [Text.isBlank])
  change Text.between? "(" ")" (Text.trimStart ('(' :: (arguments ++ [')']))) = some arguments
  rw [hstart, Text.between?_eq_some_iff]
  rfl

theorem ofText_ifCall {arguments : Text} {rest : List Text}
    (h : Text.splitCommas arguments = test :: yes :: rest) :
    ofText (ifCall arguments) =
      .cond (ofText test) (ofText yes) (ofText (Text.join [','] rest)) := by
  have hcall : IsCall (ifCall arguments) := isCall_call (c := 'i') rfl "f" arguments
  exact hcall.ofText_cond rfl rfl (ifArguments?_ifCall arguments) h

/-- A call of `if` with three arguments, where a space follows each comma. -/
def ifText (test yes no : Text) : Text := ifCall (Text.join [',', ' '] [test, yes, no])

theorem ofText_ifText (htest : Text.CommaClosed test) (hyes : Text.CommaClosed yes)
    (hno : Text.CommaClosed no) :
    ofText (ifText test yes no) = .cond (ofText test) (ofText yes) (ofText no) := by
  have hcall : ifText test yes no = ifCall (Text.join [','] [test, ' ' :: yes, ' ' :: no]) := by
    simp [ifText, Text.join]
  have hclosed : ∀ t ∈ [test, ' ' :: yes, ' ' :: no], Text.CommaClosed t := by
    simp only [List.forall_mem_cons]
    exact ⟨htest, hyes.blank_cons (by decide), hno.blank_cons (by decide), by simp⟩
  have hsplit := Text.splitCommas_join (List.cons_ne_nil _ _) hclosed
  have hblank : Text.isBlank ' ' = true := by decide
  simp only [List.map_cons, List.map_nil, Text.trim_blank_cons hblank] at hsplit
  rw [hcall, ofText_ifCall hsplit, ofText_trim, ofText_trim]
  exact congrArg _ (ofText_trim no)

/-- The value of the formula that a text writes, where `depth` formulas and branches are entered. -/
def evaluateAt (n : Note) (fs : Formulas) (depth : Nat) (s : Text) : Option Value :=
  valueWithin n fs (maxDepth + 1 - depth) (ofText s)

theorem evaluateAt_zero (n : Note) (fs : Formulas) (s : Text) :
    evaluateAt n fs 0 s = evaluate n fs s := rfl

/-- The value of `if` is that of one of its branches, each evaluated one level deeper, provided that
its arguments are closed. -/
theorem evaluateAt_ifText (n : Note) (fs : Formulas) {depth : Nat} (hdepth : depth ≤ maxDepth)
    (htest : Text.CommaClosed test) (hyes : Text.CommaClosed yes) (hno : Text.CommaClosed no) :
    evaluateAt n fs depth (ifText test yes no) =
      if Value.isTruthy (evaluateAt n fs (depth + 1) test) then evaluateAt n fs (depth + 1) yes
      else evaluateAt n fs (depth + 1) no := by
  obtain ⟨left, hleft⟩ : ∃ left, maxDepth + 1 - depth = left + 1 := ⟨maxDepth - depth, by omega⟩
  have hnext : maxDepth + 1 - (depth + 1) = left := by omega
  simp only [evaluateAt, ofText_ifText htest hyes hno, hleft, hnext]
  rfl

theorem evaluateAt_ifText_nested :
    let n := Note.ofMarkdown "A.md" [] {}
    let test : Text := "file.size"
    let yes : Text := "'), ('"
    let no : Text := "if( list(file.ext) , \"a, b\", [c, (d)])"
    3 ≤ maxDepth ∧ Text.CommaClosed test ∧ Text.CommaClosed yes ∧ Text.CommaClosed no ∧
      evaluateAt n .empty 3 (ifText test yes no) = evaluateAt n .empty 4 no ∧
      (evaluateAt n .empty 3 (ifText test yes no)).map Value.display = some "a, b".toList := by
  intro n test yes no
  have htest : Text.CommaClosed test := by decide
  have hyes : Text.CommaClosed yes := by decide
  have hno : Text.CommaClosed no := by decide
  have hdepth : 3 ≤ maxDepth := by decide
  have hvalue := evaluateAt_ifText n .empty hdepth htest hyes hno
  have hfalse : Value.isTruthy (evaluateAt n .empty 4 test) = false := by decide +kernel
  rw [hfalse] at hvalue
  exact ⟨hdepth, htest, hyes, hno, hvalue, by decide +kernel⟩

end Formula

end NoteVault
