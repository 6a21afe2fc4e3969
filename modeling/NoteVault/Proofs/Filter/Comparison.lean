import NoteVault.Proofs.Filter.Call
import NoteVault.Proofs.Filter.Whole
import NoteVault.Proofs.Formula.Literal
import NoteVault.Proofs.Value.Comparison

/-! A comparison in a statement is read as it is meant, whatever its quoted side holds, and the six
comparisons agree with one order of values. -/

namespace NoteVault

theorem Note.resolve_trim (n : Note) (fs : Formulas) (r : Text) :
    n.resolve fs (Text.trim r) = n.resolve fs r := by
  simp only [Note.resolve, Note.read, Reference.ofText, Text.trim_trim]

namespace Comparison

variable {sign left right rest r s : Text} {op : Comparison}

theorem sign?_append (h : (sign, op) ∈ signs) (hne : rest ≠ [])
    (hrest : ∀ c ∈ rest.head?, c ≠ '=') : sign? (sign ++ rest) = some (op, rest) := by
  obtain ⟨c, r, rfl⟩ := List.exists_cons_of_ne_nil hne
  have hc : '=' ≠ c := Ne.symm (hrest c rfl)
  simp only [signs, List.mem_cons, List.not_mem_nil, or_false, Prod.mk.injEq] at h
  rcases h with ⟨rfl, rfl⟩ | ⟨rfl, rfl⟩ | ⟨rfl, rfl⟩ | ⟨rfl, rfl⟩ | ⟨rfl, rfl⟩ | ⟨rfl, rfl⟩ |
    ⟨rfl, rfl⟩ <;> simp [sign?, signs, Text.after?, hc]

theorem sign?_eq_none (h : ∀ c ∈ s.head?, c ∉ ['=', '!', '<', '>']) : sign? s = none := by
  cases s with
  | nil => rfl
  | cons c s =>
    have hc := h c rfl
    simp only [List.mem_cons, List.not_mem_nil, or_false, not_or, eq_comm (a := c)] at hc
    obtain ⟨heq, hne, hlt, hgt⟩ := hc
    simp [sign?, signs, Text.after?, heq, hne, hlt, hgt]

theorem sides?_append (hne : left ≠ []) (hleft : ∀ c ∈ left, Reference.isPathChar c = true)
    (h : sign? (Text.trimStart rest) = some (op, right)) :
    sides? (left ++ rest) = some (left, op, right) := by
  induction left with
  | nil => contradiction
  | cons c left ih =>
    cases left with
    | nil =>
      rw [List.singleton_append, sides?, h]
    | cons d left =>
      have hd := hleft d (by simp)
      have hblank := Reference.isBlank_eq_false_of_isPathChar hd
      have hstart : Text.trimStart (d :: left ++ rest) = d :: left ++ rest :=
        Text.trimStart_eq_self_iff.mpr (by simpa using hblank)
      -- No sign begins inside of a name.
      have hnone : sign? (d :: left ++ rest) = none := by
        refine sign?_eq_none fun e he => ?_
        obtain rfl : d = e := by simpa using he
        intro hmem
        simp only [List.mem_cons, List.not_mem_nil, or_false] at hmem
        rcases hmem with rfl | rfl | rfl | rfl <;> exact absurd hd (by decide)
      have hrest := ih (List.cons_ne_nil d left) fun e he => hleft e (List.mem_cons_of_mem c he)
      rw [List.cons_append, sides?, hstart, hnone, hrest]
      rfl

/-- The right sides that a comparison keeps as they are: a text in quotes that do not stand in it, a
numeral or a bare name. -/
inductive IsOperand : Text → Prop
  | quoted {q : Char} {t : Text} (hq : Text.isQuote q = true) (ht : q ∉ t) :
      IsOperand (Text.quoted q t)
  | numeral {r : Text} (h : Literal.isNumeral r = true) : IsOperand r
  | name {r : Text} (hne : r ≠ []) (h : ∀ c ∈ r, Text.isNameChar c = true) : IsOperand r

/-- The characters of numerals and names. -/
def IsPlain (c : Char) : Prop := Reference.isPathChar c = true ∨ c = '+'

namespace IsPlain

variable {c : Char}

theorem isInert (h : IsPlain c) : Connective.isInert c = true := by
  rcases h with h | rfl
  · exact Connective.isInert_of_isPathChar h
  · decide

theorem isBlank_eq_false (h : IsPlain c) : Text.isBlank c = false := by
  rcases h with h | rfl
  · exact Reference.isBlank_eq_false_of_isPathChar h
  · decide

theorem not_mark (h : IsPlain c) : c ≠ '=' ∧ c ≠ ')' := by
  rcases h with h | rfl
  · constructor
    · rintro rfl
      exact absurd h (by decide)
    · rintro rfl
      exact absurd h (by decide)
  · decide

end IsPlain

namespace IsOperand

variable {r : Text}

theorem quoted_or_plain (h : IsOperand r) :
    (∃ q t, Text.isQuote q = true ∧ q ∉ t ∧ r = Text.quoted q t) ∨
      r ≠ [] ∧ ∀ c ∈ r, IsPlain c := by
  cases h with
  | quoted hq ht => exact .inl ⟨_, _, hq, ht, rfl⟩
  | name hne h => exact .inr ⟨hne, fun c hc => .inl (Reference.isPathChar_of_isNameChar (h c hc))⟩
  | numeral h =>
    refine .inr ⟨Literal.ne_nil_of_isNumeral h, fun c hc => ?_⟩
    rcases Literal.mem_of_isNumeral h hc with hdigit | hmark
    · exact .inl (Reference.isPathChar_of_isNameChar (Text.isNameChar_of_isDigit hdigit))
    · simp only [List.mem_cons, List.not_mem_nil, or_false] at hmark
      rcases hmark with rfl | rfl | rfl
      · exact .inr rfl
      · exact .inl (by decide)
      · exact .inl (by decide)

theorem ne_nil (h : IsOperand r) : r ≠ [] := by
  rcases h.quoted_or_plain with ⟨q, t, -, -, rfl⟩ | ⟨hne, -⟩
  · exact List.cons_ne_nil q _
  · exact hne

theorem trimmed (h : IsOperand r) : Text.Trimmed r := by
  rcases h.quoted_or_plain with ⟨q, t, hq, -, rfl⟩ | ⟨-, hplain⟩
  · exact Text.trimmed_quoted hq t
  · exact ⟨fun c hc => (hplain c (List.mem_of_mem_head? hc)).isBlank_eq_false,
      fun c hc => (hplain c (List.mem_of_mem_getLast? hc)).isBlank_eq_false⟩

theorem head?_ne (h : IsOperand r) : ∀ c ∈ r.head?, c ≠ '=' := by
  intro c hc
  rcases h.quoted_or_plain with ⟨q, t, hq, -, rfl⟩ | ⟨-, hplain⟩
  · obtain rfl : q = c := by simpa [Text.quoted] using hc
    rintro rfl
    exact absurd hq (by decide)
  · exact (hplain c (List.mem_of_mem_head? hc)).not_mark.1

theorem getLast?_ne (h : IsOperand r) : r.getLast? ≠ some ')' := by
  intro hlast
  rcases h.quoted_or_plain with ⟨q, t, hq, -, rfl⟩ | ⟨-, hplain⟩
  · rw [Text.getLast?_quoted] at hlast
    obtain rfl : q = ')' := Option.some.inj hlast
    exact absurd hq (by decide)
  · exact (hplain ')' (List.mem_of_mem_getLast? hlast)).not_mark.2 rfl

theorem unsplit (h : IsOperand r) (rest : Text) : Connective.Unsplit r rest := by
  rcases h.quoted_or_plain with ⟨q, t, hq, ht, rfl⟩ | ⟨-, hplain⟩
  · exact Connective.unsplit_quoted hq ht rest
  · exact Connective.unsplit_of_isInert (fun c hc => (hplain c hc).isInert) rest

theorem afterSpacedWord?_eq_none (h : IsOperand r) {k : Connective} (hk : k.Plain) :
    Connective.afterSpacedWord? k.word r = none := by
  rcases h.quoted_or_plain with ⟨q, t, hq, -, rfl⟩ | ⟨-, hplain⟩
  · have hstart : Text.trimStart (Text.quoted q t) = Text.quoted q t :=
      Text.trimStart_eq_self_iff.mpr (Text.trimmed_quoted hq t).1
    refine Connective.afterSpacedWord?_of_not_isAlpha hk fun c hc => ?_
    rw [hstart] at hc
    obtain rfl : q = c := by simpa [Text.quoted] using hc
    rw [Bool.eq_false_iff]
    intro halpha
    rw [Text.isQuote_eq_false_of_isAlpha halpha] at hq
    contradiction
  · -- The operand may be the word of a connective, but then nothing stands behind it.
    exact Connective.afterSpacedWord?_of_not_isBlank fun c hc => (hplain c hc).isBlank_eq_false

end IsOperand

theorem mem_of_mem_signs {sign : Text} {op : Comparison} (h : (sign, op) ∈ signs) :
    sign ≠ [] ∧ ∀ c ∈ sign, c ∈ ['=', '!', '<', '>'] := by
  simp only [signs, List.mem_cons, List.not_mem_nil, or_false, Prod.mk.injEq] at h
  rcases h with ⟨rfl, -⟩ | ⟨rfl, -⟩ | ⟨rfl, -⟩ | ⟨rfl, -⟩ | ⟨rfl, -⟩ | ⟨rfl, -⟩ | ⟨rfl, -⟩ <;>
    exact ⟨by decide, by simp⟩

theorem isInert_of_mem_signs {c : Char} (h : c ∈ ['=', '!', '<', '>']) :
    Connective.isInert c = true ∧ Text.isBlank c = false ∧ c.isAlpha = false := by
  simp only [List.mem_cons, List.not_mem_nil, or_false] at h
  rcases h with rfl | rfl | rfl | rfl <;> decide

/-- A comparison as it is written. -/
def text (left before sign after right : Text) : Text :=
  left ++ (before ++ (sign ++ (after ++ right)))

/-- The parts of a comparison that is written with blanks around its sign. -/
structure Written (token before sign after r : Text) (op : Comparison) : Prop where
  token : Reference.isToken token = true
  before : ∀ c ∈ before, Text.isBlank c = true
  sign : (sign, op) ∈ signs
  after : ∀ c ∈ after, Text.isBlank c = true
  operand : IsOperand r

namespace Written

variable {token before after sign r : Text} {op : Comparison}

theorem head?_sign (h : Written token before sign after r op) (rest : Text) :
    ∀ c ∈ (sign ++ rest).head?, Text.isBlank c = false ∧ c.isAlpha = false := by
  obtain ⟨hne, hmem⟩ := mem_of_mem_signs h.sign
  rw [List.head?_append_of_ne_nil _ hne]
  exact fun c hc => (isInert_of_mem_signs (hmem c (List.mem_of_mem_head? hc))).2

theorem trimStart_sign (h : Written token before sign after r op) (rest : Text) :
    Text.trimStart (sign ++ rest) = sign ++ rest :=
  Text.trimStart_eq_self_iff.mpr fun c hc => (h.head?_sign rest c hc).1

theorem sides? (h : Written token before sign after r op) :
    sides? (text token before sign after r) = some (token, op, after ++ r) := by
  have hright : ∀ c ∈ (after ++ r).head?, c ≠ '=' := by
    have hafter := h.after
    cases after with
    | nil => exact h.operand.head?_ne
    | cons d after =>
      intro c hc
      obtain rfl : d = c := by simpa using hc
      rintro rfl
      exact absurd (hafter '=' List.mem_cons_self) (by decide)
  have hne := List.append_ne_nil_of_right_ne_nil after h.operand.ne_nil
  refine sides?_append (Reference.ne_nil_of_isToken h.token)
    (Reference.isPathChar_of_isToken h.token) ?_
  rw [Text.trimStart_append_of_isBlank h.before, h.trimStart_sign]
  exact sign?_append h.sign hne hright

theorem comparison? (h : Written token before sign after r op) :
    Predicate.comparison? (text token before sign after r) =
      some (.compare token op (Comparison.operand r)) := by
  have hleft := Text.trim_eq_self_iff.mpr (Reference.trimmed_of_isToken h.token)
  have hright : Text.trim (after ++ r) = r := by
    rw [Text.trim_append_of_isBlank h.after, Text.trim_eq_self_iff.mpr h.operand.trimmed]
  simp only [Predicate.comparison?, h.sides?, Option.map_some, hleft, hright]

theorem getLast? (h : Written token before sign after r op) :
    (text token before sign after r).getLast? = r.getLast? := by
  have hassoc : text token before sign after r = (token ++ before ++ sign ++ after) ++ r := by
    simp [text]
  rw [hassoc, List.getLast?_append_of_ne_nil _ h.operand.ne_nil]

theorem unsplit (h : Written token before sign after r op) :
    Connective.Unsplit (text token before sign after r) [] := by
  have htoken : ∀ c ∈ token, Connective.isInert c = true := fun c hc =>
    Connective.isInert_of_isPathChar (Reference.isPathChar_of_isToken h.token c hc)
  have hsign : ∀ c ∈ sign, Connective.isInert c = true := fun c hc =>
    (isInert_of_mem_signs ((mem_of_mem_signs h.sign).2 c hc)).1
  have hbefore : ∀ k ∈ [Connective.disjunction, Connective.conjunction],
      Connective.afterSpacedWord? k.word (sign ++ (after ++ r) ++ []) = none := by
    intro k hk
    rw [List.append_nil]
    refine Connective.afterSpacedWord?_of_not_isAlpha (Connective.plain_of_mem hk) ?_
    rw [h.trimStart_sign]
    exact fun c hc => (h.head?_sign _ c hc).2
  have hafter : ∀ k ∈ [Connective.disjunction, Connective.conjunction],
      Connective.afterSpacedWord? k.word (r ++ []) = none := by
    intro k hk
    rw [List.append_nil]
    exact h.operand.afterSpacedWord?_eq_none (Connective.plain_of_mem hk)
  exact (Connective.unsplit_of_isInert htoken _).append <|
    (Connective.unsplit_of_isBlank h.before hbefore).append <|
    (Connective.unsplit_of_isInert hsign _).append <|
    (Connective.unsplit_of_isBlank h.after hafter).append (h.operand.unsplit [])

theorem isWhole (h : Written token before sign after r op) :
    IsWhole (text token before sign after r) := by
  have hne := Reference.ne_nil_of_isToken h.token
  refine Connective.isWhole_of_unsplit (List.append_ne_nil_of_left_ne_nil hne _) ⟨?_, ?_⟩ h.unsplit
  · rw [text, List.head?_append_of_ne_nil _ hne]
    exact (Reference.trimmed_of_isToken h.token).1
  · rw [h.getLast?]
    exact h.operand.trimmed.2

theorem negated? (h : Written token before sign after r op)
    (hnot : Text.alike token "not" = false) :
    Condition.negated? (text token before sign after r) = none := by
  have hrest : ∀ c ∈ (before ++ (sign ++ (after ++ r))).head?, c.isAlpha = false := by
    have hbefore := h.before
    cases before with
    | nil => exact fun c hc => (h.head?_sign _ c hc).2
    | cons d before =>
      intro c hc
      obtain rfl : d = c := by simpa using hc
      have hblank := hbefore d List.mem_cons_self
      rw [Bool.eq_false_iff]
      intro halpha
      rw [Text.isBlank_eq_false_of_isAlpha halpha] at hblank
      contradiction
  refine Condition.negated?_of_isPathChar (Reference.ne_nil_of_isToken h.token)
    (Reference.isPathChar_of_isToken h.token) hrest fun halike => ?_
  rw [hnot] at halike
  contradiction

theorem ofText (h : Written token before sign after r op)
    (hnot : Text.alike token "not" = false) :
    Condition.ofText (text token before sign after r) =
      .predicate (.compare token op (Comparison.operand r)) := by
  have hcall : Predicate.call? (text token before sign after r) = none := by
    rw [Option.eq_none_iff_forall_not_mem]
    intro p hp
    have hlast := Predicate.getLast?_of_call? hp
    rw [h.getLast?] at hlast
    exact h.operand.getLast?_ne hlast
  refine Condition.ofText_predicate h.isWhole (h.negated? hnot) ?_
  rw [Predicate.ofText?, hcall, h.comparison?]

end Written

theorem evaluate_of_mem_signs (n : Note) (fs : Formulas) {x before sign after r : Text}
    {op : Comparison} (hx : Reference.isReference x = true)
    (hnot : Text.alike (Text.trim x) "not" = false)
    (hbefore : ∀ c ∈ before, Text.isBlank c = true) (hafter : ∀ c ∈ after, Text.isBlank c = true)
    (hr : IsOperand r) (hsign : (sign, op) ∈ signs) :
    Condition.evaluate n fs (x ++ before ++ sign ++ after ++ r) =
      .of (op.holds (n.resolve fs x) (some (operand r))) := by
  obtain ⟨l, m, hsplit, hl, hm⟩ := Text.exists_eq_append_trim x
  have hwritten : Written (Text.trim x) (m ++ before) sign after r op :=
    ⟨hx, List.forall_mem_append.mpr ⟨hm, hbefore⟩, hsign, hafter, hr⟩
  have htext : x ++ before ++ sign ++ after ++ r =
      l ++ text (Text.trim x) (m ++ before) sign after r := by
    conv_lhs => rw [hsplit]
    simp only [text, List.append_assoc]
  have hcondition : Condition.ofText (x ++ before ++ sign ++ after ++ r) =
      .predicate (.compare (Text.trim x) op (operand r)) := by
    rw [htext, ← Condition.ofText_trim, Text.trim_append_of_isBlank hl, Condition.ofText_trim,
      hwritten.ofText hnot]
  simp only [Condition.evaluate, hcondition, Condition.outcome, Predicate.holds, Note.resolve_trim]

theorem countP_holds (a b : Option Value) :
    [Comparison.lt, .eq, .gt].countP (fun op => op.holds a b) = 1 := by
  simp only [List.countP_cons, List.countP_nil, holds, Value.looselyEqual_eq_compare]
  cases Value.compare a b <;> rfl

/-- A comparison of a reference is the comparison of what it names with the operand, whatever stands
in the quotes of the operand. One of `<`, `==` and `>` holds, and the other signs negate these. -/
theorem evaluate_comparison (n : Note) (fs : Formulas) {x before after r : Text}
    (hx : Reference.isReference x = true) (hnot : Text.alike (Text.trim x) "not" = false)
    (hbefore : ∀ c ∈ before, Text.isBlank c = true) (hafter : ∀ c ∈ after, Text.isBlank c = true)
    (hr : IsOperand r) :
    let outcome (sign : Text) := Condition.evaluate n fs (x ++ before ++ sign ++ after ++ r)
    (∀ sign op, (sign, op) ∈ signs →
        outcome sign = .of (op.holds (n.resolve fs x) (some (operand r)))) ∧
      outcome "=" = outcome "==" ∧
      [outcome "<", outcome "==", outcome ">"].countP Outcome.ok = 1 ∧
      (outcome "<=").ok = !(outcome ">").ok ∧
      (outcome ">=").ok = !(outcome "<").ok ∧
      (outcome "!=").ok = !(outcome "==").ok := by
  intro outcome
  have hread : ∀ sign op, (sign, op) ∈ signs →
      outcome sign = .of (op.holds (n.resolve fs x) (some (operand r))) :=
    fun sign op => evaluate_of_mem_signs n fs hx hnot hbefore hafter hr
  have hlt := hread "<" .lt (by decide)
  have hle := hread "<=" .le (by decide)
  have heq := hread "==" .eq (by decide)
  have hne := hread "!=" .ne (by decide)
  have hge := hread ">=" .ge (by decide)
  have hgt := hread ">" .gt (by decide)
  have hcount := countP_holds (n.resolve fs x) (some (operand r))
  rw [hlt, hle, heq, hne, hge, hgt]
  exact ⟨hread, hread "=" .eq (by decide), hcount, rfl, rfl, rfl⟩

theorem evaluate_comparison_quotedWords :
    let n := Note.ofMarkdown "Projects/A.md" "---\nrank: 10\n---\n" {}
    let x : Text := " rank"
    let r : Text := Text.quoted '\'' "9 or (a && \"b\") >= not"
    Reference.isReference x = true ∧ Text.alike (Text.trim x) "not" = false ∧ IsOperand r ∧
      Condition.evaluate n .empty (x ++ [' '] ++ ['<'] ++ [' '] ++ r) = .of true := by
  intro n x r
  have hx : Reference.isReference x = true := by decide
  have hnot : Text.alike (Text.trim x) "not" = false := by decide
  have hr : IsOperand r := .quoted (by decide) (by decide)
  have hblank : ∀ c ∈ [' '], Text.isBlank c = true := List.all_eq_true.mp rfl
  have h := (evaluate_comparison n .empty hx hnot hblank hblank hr).1 ['<'] .lt (by decide)
  have hless : Comparison.lt.holds (n.resolve .empty x) (some (operand r)) = true := by
    decide +kernel
  rw [hless] at h
  exact ⟨hx, hnot, hr, h⟩

end Comparison

end NoteVault
