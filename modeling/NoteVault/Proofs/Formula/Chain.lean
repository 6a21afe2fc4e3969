import NoteVault.Proofs.Formula.Hop

/-! A chain of formulas has the value of the formula at its end, up to `maxDepth` formulas. A longer
chain has no value. -/

namespace NoteVault

open Reference (toFormula IsKey IsData)

namespace Formula

variable {n : Note} {fs : Formulas} {e f : Text} {names : List Text}

/-- A formula in which no other one is entered: a literal, a reference to data, or `list(…)` or
`join(list(…))` of one, with blanks in the parentheses. -/
inductive IsDirect : Text → Prop
  | null : IsDirect "null"
  | numeral {s : Text} (h : Literal.isNumeral s = true) : IsDirect s
  | quoted {q : Char} (hq : Text.isQuote q = true) (t : Text) : IsDirect (Text.quoted q t)
  | reference {r : Text} (h : IsData r) : IsDirect r
  | listed {s : Text} (h : IsData (Text.trim s)) : IsDirect (call "list" s)
  | joined {s t : Text} (h : IsData (Text.trim s)) (ht : Text.trim t = call "list" s) :
      IsDirect (call "join" t)

theorem IsDirect.literal_or_wrapper (h : IsDirect e) :
    (∃ v, ofText e = .literal v) ∨ ∃ (w : Wrapper) (r : Text), IsData r ∧ ofText e = w.formula r := by
  cases h with
  | null => exact .inl ⟨_, ofText_null⟩
  | numeral h => exact .inl (exists_ofText_numeral h)
  | quoted hq t => exact .inl ⟨_, ofText_quoted hq t⟩
  | reference h =>
    rcases ofText_token h.isToken with href | hliteral
    · exact .inr ⟨.plain, _, h, href⟩
    · exact .inl hliteral
  | listed h => exact .inr ⟨.listed, _, h, ofText_list h.isToken⟩
  | joined h ht => exact .inr ⟨.joined, _, h, ofText_join h.isToken ht⟩

/-- Where no formula is entered, the depth does not matter. -/
theorem valueWithin_of_isDirect (h : IsDirect (Text.trim e)) (left : Nat) :
    valueWithin n fs (left + 1) (ofText e) = evaluate n fs e := by
  rw [evaluate, ← ofText_trim e]
  rcases h.literal_or_wrapper with ⟨v, hv⟩ | ⟨w, r, hr, hw⟩
  · rw [hv]
    rfl
  · rw [hw, w.valueWithin_formula, w.valueWithin_formula, Note.resolveWithin_of_isData hr,
      Note.resolveWithin_of_isData hr]

/-- Formulas of which each is a reference to the next one, and the last one is `e`. -/
structure IsChain (fs : Formulas) (names : List Text) (e : Text) : Prop where
  isKey : ∀ f ∈ names, IsKey f
  hops : names.IsChain fun f g => fs.expression? f = some (toFormula g)
  last : names.getLast?.bind fs.expression? = some e

theorem IsChain.tail {g : Text} (h : IsChain fs (f :: g :: names) e) :
    IsChain fs (g :: names) e where
  isKey := fun k hk => h.isKey k (List.mem_cons_of_mem f hk)
  hops := (List.isChain_cons_cons.mp h.hops).2
  last := by simpa using h.last

/-- Each formula of a chain but the last one uses up one of those that may be entered. -/
theorem IsChain.resolveWithin_head (h : IsChain fs (f :: names) e) (left : Nat) :
    n.resolveWithin fs left (toFormula f) =
      valueWithin n fs (left - names.length) (ofText e) := by
  induction names generalizing f left with
  | nil =>
    have hf : fs.expression? f = some e := by simpa using h.last
    exact resolveWithin_toFormula (h.isKey f List.mem_cons_self) hf
  | cons g names ih =>
    have hf := h.isKey f List.mem_cons_self
    have hg := h.isKey g (by simp)
    have hhop := (List.isChain_cons_cons.mp h.hops).1
    cases left with
    | zero => rw [resolveWithin_zero hf, Nat.zero_sub, valueWithin]
    | succ left =>
      have hnext : n.resolveWithin fs (left + 1) (toFormula f) =
          n.resolveWithin fs left (toFormula g) := resolveWithin_hop (w := .plain) hf hg hhop
      rw [hnext, List.length_cons, Nat.add_sub_add_right]
      exact ih h.tail left

/-- The limit of hops is exact: the first formula of a chain has the value of the last one if the
chain has at most `maxDepth` formulas, and else none. -/
theorem resolve_chain (n : Note) (h : IsChain fs (f :: names) e) (he : IsDirect (Text.trim e)) :
    n.resolve fs (toFormula f) =
      if (f :: names).length ≤ maxDepth then evaluate n fs e else none := by
  rw [Note.resolve_eq, h.resolveWithin_head]
  split
  · next hle =>
    rw [List.length_cons] at hle
    obtain ⟨left, hleft⟩ : ∃ left, maxDepth - names.length = left + 1 :=
      ⟨maxDepth - names.length - 1, by omega⟩
    rw [hleft, valueWithin_of_isDirect he]
  · next hlong =>
    rw [List.length_cons] at hlong
    have hleft : maxDepth - names.length = 0 := by omega
    rw [hleft, valueWithin]

theorem resolve_chain_limit :
    let n := Note.ofMarkdown "Projects/A.md" [] {}
    let names : List Text := "bcdefghijklmnopq".toList.map fun c => [c]
    let e : Text := " list( file.folder )"
    let fs : Formulas := .ofList <| (['a'] :: names).zipWith (fun f e => (f, .text e))
      (names.map toFormula ++ [e])
    IsChain fs (['a'] :: names) e ∧ IsDirect (Text.trim e) ∧ names.length = maxDepth ∧
      n.resolve fs (toFormula ['a']) = none ∧
      n.resolve fs (toFormula ['b']) = evaluate n fs e ∧
      (evaluate n fs e).map Value.display = some "Projects".toList := by
  intro n names e fs
  have hchain : IsChain fs (['a'] :: names) e :=
    ⟨by decide +kernel, by decide +kernel, by decide +kernel⟩
  have he : IsDirect (Text.trim e) :=
    .listed (s := " file.folder ") (.inr (by decide +kernel))
  have hlength : names.length = maxDepth := by decide
  exact ⟨hchain, he, hlength, resolve_chain n hchain he, resolve_chain n hchain.tail he,
    by decide +kernel⟩

end Formula

end NoteVault
