import NoteVault.Formula.Basic
import NoteVault.Proofs.Formula.Literal
import NoteVault.Proofs.Formula.Reference
import NoteVault.Proofs.Text.OpenQuote

/-! How formulas are read: literals, references, and the calls `list(…)` and `join(list(…))` with
blanks around the reference in them. -/

namespace NoteVault

theorem Literal.trimmed_of_isNumeral {s : Text} (h : isNumeral s = true) : Text.Trimmed s := by
  have hblank : ∀ c ∈ s, Text.isBlank c = false := by
    intro c hc
    rcases mem_of_isNumeral h hc with hdigit | hmark
    · exact Text.isBlank_eq_false_of_isNameChar (Text.isNameChar_of_isDigit hdigit)
    · simp only [List.mem_cons, List.not_mem_nil, or_false] at hmark
      rcases hmark with rfl | rfl | rfl <;> decide
  exact ⟨fun c hc => hblank c (List.mem_of_mem_head? hc),
    fun c hc => hblank c (List.mem_of_mem_getLast? hc)⟩

namespace Formula

variable {s r : Text}

theorem ofText_trim (s : Text) : ofText (Text.trim s) = ofText s := by
  rw [ofText, ofText.eq_1 s, Text.trim_trim]

/-! ### Literals and references -/

theorem ofText_null : ofText "null" = .literal .null := by
  rw [ofText]
  rfl

theorem exists_ofText_numeral (h : Literal.isNumeral s = true) : ∃ v, ofText s = .literal v := by
  have htrim := Text.trim_eq_self_iff.mpr (Literal.trimmed_of_isNumeral h)
  have hne : s.isEmpty = false := by simpa using Literal.ne_nil_of_isNumeral h
  obtain ⟨v, hv⟩ : ∃ v, Literal.number? s = some v := by
    simp only [Literal.number?, htrim, h]
    cases Literal.integer? s with
    | some n => exact ⟨_, rfl⟩
    | none =>
      cases Binary64.ofText? s with
      | some x => exact ⟨_, rfl⟩
      | none => exact ⟨_, rfl⟩
  by_cases hnull : s = "null".toList
  · exact ⟨.null, hnull ▸ ofText_null⟩
  · have hother : (s == "null".toList) = false := beq_false_of_ne hnull
    refine ⟨v, ?_⟩
    rw [ofText]
    simp only [htrim, hne, hother, hv, Bool.false_eq_true, if_false]

theorem number?_cons_eq_none {c : Char} (hdigit : c.isDigit = false) (hplus : c ≠ '+')
    (hminus : c ≠ '-') (htrim : Text.Trimmed (c :: s)) : Literal.number? (c :: s) = none := by
  have hnumeral := Literal.isNumeral_cons_eq_false hdigit hplus hminus s
  simp [Literal.number?, Text.trim_eq_self_iff.mpr htrim, hnumeral]

theorem ofText_quoted {q : Char} (hq : Text.isQuote q = true) (t : Text) :
    ofText (Text.quoted q t) = .literal (.text t) := by
  have htrim := Text.trimmed_quoted hq t
  have hmark : q.isDigit = false ∧ q ≠ '+' ∧ q ≠ '-' ∧ q ≠ 'n' := by
    have hc : q = '"' ∨ q = '\'' := by simpa [Text.isQuote] using hq
    rcases hc with rfl | rfl <;> decide
  have hnumber : Literal.number? (Text.quoted q t) = none :=
    number?_cons_eq_none hmark.1 hmark.2.1 hmark.2.2.1 htrim
  have hquoted : Literal.quoted? (Text.quoted q t) = some t := Text.unquoted?_quoted hq t
  have hnull : (Text.quoted q t == "null".toList) = false :=
    beq_false_of_ne fun h => hmark.2.2.2 (List.cons.inj h).1
  have hne : (Text.quoted q t).isEmpty = false := rfl
  rw [ofText]
  simp only [Text.trim_eq_self_iff.mpr htrim, hne, hnull, hnumber, hquoted, Bool.false_eq_true,
    if_false]

theorem ofText_reference (hr : Reference.isToken r = true) (hnull : r ≠ "null".toList)
    (hnumeral : Literal.isNumeral r = false) : ofText r = .reference r := by
  have htrim := Text.trim_eq_self_iff.mpr (Reference.trimmed_of_isToken hr)
  have hne : r.isEmpty = false := by simpa using Reference.ne_nil_of_isToken hr
  have hnumber : Literal.number? r = none := by simp [Literal.number?, htrim, hnumeral]
  have hquoted : Literal.quoted? r = none := Text.unquoted?_eq_none fun c hc =>
    Reference.isQuote_eq_false_of_isPathChar (Reference.isPathChar_of_isToken hr c hc)
  have hreference : Reference.isReference r = true := by rw [Reference.isReference, htrim, hr]
  have hother : (r == "null".toList) = false := beq_false_of_ne hnull
  rw [ofText]
  simp only [htrim, hne, hother, hnumber, hquoted, hreference, Bool.false_eq_true, if_false,
    if_true]

/-- A reference is read as a literal if it happens to write one. -/
theorem ofText_token (hr : Reference.isToken r = true) :
    ofText r = .reference r ∨ ∃ v, ofText r = .literal v := by
  by_cases hnull : r = "null".toList
  · exact .inr ⟨.null, hnull ▸ ofText_null⟩
  · cases hnumeral : Literal.isNumeral r with
    | true => exact .inr (exists_ofText_numeral hnumeral)
    | false => exact .inl (ofText_reference hr hnull hnumeral)

theorem ofText_toFormula {key : Text} (h : Reference.IsKey key) :
    ofText (Reference.toFormula key) = .reference (Reference.toFormula key) := by
  refine ofText_reference (Reference.isToken_toFormula h) ?_ ?_
  · exact fun hnull => absurd (List.cons.inj hnull).1 (by decide)
  · exact Literal.isNumeral_cons_eq_false (by decide) (by decide) (by decide) _

/-! ### Calls -/

/-- A call as it is written. -/
def call (name arguments : Text) : Text := name ++ '(' :: (arguments ++ [')'])

/-- A text that is neither a literal nor a reference, so that it can only be read as a call. -/
structure IsCall (t : Text) : Prop where
  trim : Text.trim t = t
  nonempty : t.isEmpty = false
  null : (t == "null".toList) = false
  number : Literal.number? t = none
  quoted : Literal.quoted? t = none
  reference : Reference.isReference t = false

theorem trimmed_call {c : Char} (hc : Text.isBlank c = false) (name arguments : Text) :
    Text.Trimmed (call (c :: name) arguments) := by
  have hlast : (call (c :: name) arguments).getLast? = some ')' := by
    have happend : call (c :: name) arguments = (c :: name ++ '(' :: arguments) ++ [')'] := by
      simp [call]
    rw [happend, List.getLast?_concat]
  rw [Text.Trimmed, hlast]
  constructor
  · simpa [call] using hc
  · rintro _ ⟨⟩
    decide

theorem isCall_call {c : Char} (hc : c.isAlpha = true) (name arguments : Text) :
    IsCall (call (c :: name) arguments) := by
  have htrimmed := trimmed_call (Text.isBlank_eq_false_of_isAlpha hc) name arguments
  have hparen : '(' ∈ call (c :: name) arguments := by simp [call]
  have hsign : c ≠ '+' ∧ c ≠ '-' := by
    constructor
    · rintro rfl
      exact absurd hc (by decide)
    · rintro rfl
      exact absurd hc (by decide)
  refine ⟨Text.trim_eq_self_iff.mpr htrimmed, rfl, ?_, ?_, ?_, ?_⟩
  · refine beq_false_of_ne fun hnull => ?_
    rw [hnull] at hparen
    exact absurd hparen (by decide)
  · exact number?_cons_eq_none (Text.isDigit_eq_false_of_isAlpha hc) hsign.1 hsign.2 htrimmed
  · exact Text.unquoted?_cons_eq_none (Text.isQuote_eq_false_of_isAlpha hc) _
  · rw [Reference.isReference, Text.trim_eq_self_iff.mpr htrimmed]
    exact Reference.isToken_eq_false_of_mem hparen (by decide)

namespace IsCall

variable {t test yes arguments : Text} {rest : List Text}

theorem ofText_joined (h : IsCall t) (hjoin : joinArgument? t = some r) :
    ofText t = .joined r := by
  rw [ofText]
  simp only [h.trim, h.nonempty, h.null, h.number, h.quoted, h.reference, hjoin,
    Bool.false_eq_true, if_false]

theorem ofText_listed (h : IsCall t) (hjoin : joinArgument? t = none)
    (hlist : listArgument? t = some r) : ofText t = .listed r := by
  rw [ofText]
  simp only [h.trim, h.nonempty, h.null, h.number, h.quoted, h.reference, hjoin, hlist,
    Bool.false_eq_true, if_false]

theorem ofText_cond (h : IsCall t) (hjoin : joinArgument? t = none)
    (hlist : listArgument? t = none) (hif : ifArguments? t = some arguments)
    (hsplit : Text.splitCommas arguments = test :: yes :: rest) :
    ofText t = .cond (ofText test) (ofText yes) (ofText (Text.join [','] rest)) := by
  rw [ofText]
  simp only [h.trim, h.nonempty, h.null, h.number, h.quoted, h.reference, hjoin, hlist,
    Bool.false_eq_true, if_false]
  split
  · next hnone =>
    rw [h.trim, hif] at hnone
    contradiction
  · next arguments' hsome =>
    rw [h.trim, hif] at hsome
    obtain rfl := Option.some.inj hsome
    split
    · next test' yes' rest' hcut =>
      rw [hsplit, List.cons.injEq, List.cons.injEq] at hcut
      obtain ⟨rfl, rfl, rfl⟩ := hcut
      rfl
    · next hother => exact absurd hsplit (hother test yes rest)

end IsCall

theorem listArgument?_list (h : Reference.isToken (Text.trim s) = true) :
    listArgument? (call "list" s) = some (Text.trim s) := by
  have hbetween : Text.between? "list(" ")" (call "list" s) = some s :=
    Text.between?_eq_some_iff.mpr rfl
  simp only [listArgument?, hbetween, Option.bind_some, h, if_true]

theorem ofText_list (h : Reference.isToken (Text.trim s) = true) :
    ofText (call "list" s) = .listed (Text.trim s) := by
  have hcall : IsCall (call "list" s) := isCall_call (c := 'l') rfl "ist" s
  exact hcall.ofText_listed rfl (listArgument?_list h)

theorem ofText_join {t : Text} (h : Reference.isToken (Text.trim s) = true)
    (ht : Text.trim t = call "list" s) : ofText (call "join" t) = .joined (Text.trim s) := by
  have hcall : IsCall (call "join" t) := isCall_call (c := 'j') rfl "oin" t
  have hbetween : Text.between? "join(" ")" (call "join" t) = some t :=
    Text.between?_eq_some_iff.mpr rfl
  apply hcall.ofText_joined
  rw [joinArgument?, hbetween, Option.bind_some, ht, listArgument?_list h]

end Formula

end NoteVault
