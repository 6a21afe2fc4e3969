import NoteVault.Proofs.Filter.Comparison
import NoteVault.Proofs.Formula.Integer

/-! A comparison of integers in a statement is the comparison of the doubles nearest to them, and so
in the order of the integers. Large integers may share a double; then they are equal. -/

namespace NoteVault

theorem Reference.ofText_name {x : Text} (hx : ∀ c ∈ x, Text.isNameChar c = true) :
    ofText x = .note x := by
  have hblank : ∀ c ∈ x, Text.isBlank c = false := fun c hc =>
    Text.isBlank_eq_false_of_isNameChar (hx c hc)
  have htrim : Text.trim x = x := Text.trim_eq_self_iff.mpr
    ⟨fun c hc => hblank c (List.mem_of_mem_head? hc),
      fun c hc => hblank c (List.mem_of_mem_getLast? hc)⟩
  -- A scope ends in a point, and no name holds one.
  have hscope : ∀ scope : Text, '.' ∈ scope → Text.after? scope x = none := by
    intro scope hpoint
    rw [Option.eq_none_iff_forall_not_mem]
    intro path hpath
    have hmem : '.' ∈ x := Text.eq_append_of_after? hpath ▸ List.mem_append_left _ hpoint
    exact absurd (hx '.' hmem) (by decide)
  simp only [ofText, htrim, hscope "file." (by decide), hscope "note." (by decide),
    hscope "formula." (by decide)]

namespace Comparison

variable {r word : Text} {a b : Int}

theorem alike_eq_false_of_isNumeral (hr : Literal.isNumeral r = true)
    (hword : ∀ c ∈ word, c.toLower.isAlpha = true) : Text.alike r word = false := by
  rw [Bool.eq_false_iff]
  intro halike
  obtain ⟨c, s, rfl⟩ := List.exists_cons_of_ne_nil (Literal.ne_nil_of_isNumeral hr)
  have halpha := Text.isAlpha_of_alike halike hword c List.mem_cons_self
  rcases Literal.mem_of_isNumeral hr List.mem_cons_self with hdigit | hmark
  · rw [Text.isDigit_eq_false_of_isAlpha halpha] at hdigit
    contradiction
  · simp only [List.mem_cons, List.not_mem_nil, or_false] at hmark
    rcases hmark with rfl | rfl | rfl <;> exact absurd halpha (by decide)

/-- A whole literal on the right side is read as a number. -/
theorem finite?_operand (hr : Text.toInt? r = some b) (hb : isInteger64 b = true) :
    Value.finite? (some (operand r)) = some (.ofInt b) := by
  have hnumeral := Literal.isNumeral_of_toInt? hr
  have htrim := Text.trim_eq_self_iff.mpr (IsOperand.numeral hnumeral).trimmed
  obtain ⟨m, hm, hdouble⟩ := Literal.number?_of_toInt? hr hb htrim
  have hquoted : Text.isQuoted r = false := by
    have hnone : Text.unquoted? r = none := Text.unquoted?_eq_none fun c hc => by
      rcases Literal.mem_of_isNumeral hnumeral hc with hdigit | hmark
      · exact Reference.isQuote_eq_false_of_isPathChar
          (Reference.isPathChar_of_isNameChar (Text.isNameChar_of_isDigit hdigit))
      · simp only [List.mem_cons, List.not_mem_nil, or_false] at hmark
        rcases hmark with rfl | rfl | rfl <;> rfl
    rw [Text.isQuoted, htrim, hnone]
    rfl
  have htrue : Text.alike r "true" = false := alike_eq_false_of_isNumeral hnumeral
    (List.all_eq_true.mp rfl)
  have hfalse : Text.alike r "false" = false := alike_eq_false_of_isNumeral hnumeral
    (List.all_eq_true.mp rfl)
  simp only [operand, hquoted, htrue, hfalse, hm, Option.getD_some, Bool.false_eq_true, if_false]
  rw [Value.finite?, hdouble]

theorem eq_holds_iff (ha : isInteger64 a = true) (hr : Text.toInt? r = some b)
    (hb : isInteger64 b = true) :
    Comparison.eq.holds (some (.int a)) (some (operand r)) = true ↔
      Binary64.ofInt a = Binary64.ofInt b := by
  rw [holds, Value.looselyEqual_eq_compare, beq_iff_eq,
    Value.compare_of_numbers rfl (finite?_operand hr hb), Std.compare_eq_iff_eq]
  exact Binary64.rank_ofInt_inj (natAbs_lt_of_isInteger64 ha) (natAbs_lt_of_isInteger64 hb)

theorem lt_holds_iff (ha : isInteger64 a = true) (hr : Text.toInt? r = some b)
    (hb : isInteger64 b = true) :
    Comparison.lt.holds (some (.int a)) (some (operand r)) = true ↔
      a < b ∧ Binary64.ofInt a ≠ Binary64.ofInt b := by
  rw [holds, beq_iff_eq, Value.compare_of_numbers rfl (finite?_operand hr hb),
    Int.compare_eq_lt]
  exact Binary64.rank_ofInt_lt_iff (natAbs_lt_of_isInteger64 ha) (natAbs_lt_of_isInteger64 hb)

theorem gt_holds_iff (ha : isInteger64 a = true) (hr : Text.toInt? r = some b)
    (hb : isInteger64 b = true) :
    Comparison.gt.holds (some (.int a)) (some (operand r)) = true ↔
      b < a ∧ Binary64.ofInt a ≠ Binary64.ofInt b := by
  rw [holds, beq_iff_eq, Value.compare_of_numbers rfl (finite?_operand hr hb),
    Int.compare_eq_gt, ne_comm]
  exact Binary64.rank_ofInt_lt_iff (natAbs_lt_of_isInteger64 hb) (natAbs_lt_of_isInteger64 ha)

/-- A comparison of a field with an integer is made by the doubles nearest to the two: they are
equal if these are, and in their own order if not. Two integers that doubles hold have different
ones, and an integer of less than 54 bits shares its double with no other one. -/
theorem evaluate_integers (n : Note) (fs : Formulas) {x before after : Text} (hx : x ≠ [])
    (hname : ∀ c ∈ x, Text.isNameChar c = true) (hnot : Text.alike x "not" = false)
    (hfield : n.frontmatter.get? x = some (.int a)) (ha : isInteger64 a = true)
    (hr : Text.toInt? r = some b) (hb : isInteger64 b = true)
    (hbefore : ∀ c ∈ before, Text.isBlank c = true)
    (hafter : ∀ c ∈ after, Text.isBlank c = true) :
    let passes := fun sign : Text =>
      (Condition.evaluate n fs (x ++ before ++ sign ++ after ++ r)).ok = true
    (passes "==" ↔ Binary64.ofInt a = Binary64.ofInt b) ∧
      (passes "<" ↔ a < b ∧ Binary64.ofInt a ≠ Binary64.ofInt b) ∧
      (passes ">" ↔ b < a ∧ Binary64.ofInt a ≠ Binary64.ofInt b) ∧
      (Binary64.IsExact a ∧ Binary64.IsExact b ∨ a.natAbs < 2 ^ 53 ∨ b.natAbs < 2 ^ 53 →
        (Binary64.ofInt a = Binary64.ofInt b ↔ a = b)) := by
  have hproperty : Reference.IsProperty x := .inl ⟨hx, hname⟩
  have htrim := Text.trim_eq_self_iff.mpr (Reference.trimmed_of_isToken hproperty.isToken)
  have hresolve : n.resolve fs x = some (.int a) := by
    simp only [Note.resolve, Note.read, Reference.ofText_name hname, hfield]
  have hread : ∀ sign op, (sign, op) ∈ signs →
      (Condition.evaluate n fs (x ++ before ++ sign ++ after ++ r)).ok =
        op.holds (some (.int a)) (some (operand r)) := by
    intro sign op hsign
    rw [evaluate_of_mem_signs n fs (by rw [Reference.isReference, htrim]; exact hproperty.isToken)
      (by rwa [htrim]) hbefore hafter (.numeral (Literal.isNumeral_of_toInt? hr)) hsign, hresolve]
    rfl
  have ha' := natAbs_lt_of_isInteger64 ha
  have hb' := natAbs_lt_of_isInteger64 hb
  intro passes
  refine ⟨?_, ?_, ?_, ?_⟩
  · rw [← eq_holds_iff ha hr hb, ← hread "==" .eq (by decide)]
  · rw [← lt_holds_iff ha hr hb, ← hread "<" .lt (by decide)]
  · rw [← gt_holds_iff ha hr hb, ← hread ">" .gt (by decide)]
  · rintro (⟨hexact, hexact'⟩ | hsmall | hsmall)
    · exact Binary64.ofInt_inj_of_isExact ha' hb' hexact hexact'
    · exact Binary64.ofInt_inj_of_natAbs_lt hsmall hb'
    · rw [eq_comm, Binary64.ofInt_inj_of_natAbs_lt hsmall ha', eq_comm]

theorem evaluate_integers_large :
    let n := { Note.ofMarkdown "N.md" "" {} with
      frontmatter := Record.empty.insert "x" (.int 18446744073709551615) }
    n.frontmatter.get? "x" = some (.int 18446744073709551615) ∧
      isInteger64 18446744073709551615 = true ∧ isInteger64 9223372036854775808 = true ∧
      Text.toInt? "+9223372036854775808" = some 9223372036854775808 ∧
      (Condition.evaluate n .empty "x > +9223372036854775808").ok = true := by
  intro n
  have hfield : n.frontmatter.get? "x" = some (.int 18446744073709551615) :=
    Record.get?_insert .empty "x" "x" _
  have hr : Text.toInt? "+9223372036854775808" = some 9223372036854775808 := by
    decide +kernel
  have hname : ∀ c ∈ ['x'], Text.isNameChar c = true := List.all_eq_true.mp rfl
  have hblank : ∀ c ∈ [' '], Text.isBlank c = true := List.all_eq_true.mp rfl
  have hgt := (evaluate_integers n .empty (List.cons_ne_nil 'x' []) hname (by decide) hfield
    (by decide) hr (by decide) hblank hblank).2.2.1
  exact ⟨hfield, by decide, by decide, hr, hgt.mpr ⟨by decide, by decide +kernel⟩⟩

/-- The first integer that no double holds is equal to the one before it. -/
theorem evaluate_shared_double :
    let n := { Note.ofMarkdown "N.md" "" {} with
      frontmatter := Record.empty.insert "x" (.int 9007199254740993) }
    n.frontmatter.get? "x" = some (.int 9007199254740993) ∧
      (9007199254740993 : Int) ≠ 9007199254740992 ∧
      (Condition.evaluate n .empty "x == 9007199254740992").ok = true ∧
      (Condition.evaluate n .empty "x > 9007199254740992").ok = false :=
  ⟨Record.get?_insert .empty "x" "x" _, by decide, by decide +kernel, by decide +kernel⟩

end Comparison

end NoteVault
