import NoteVault.Proofs.Formula.Call

/-! What formulas read through references. Data reads the same at every depth, and a hop from one
formula to the next uses up one of the formulas that may be entered. -/

namespace NoteVault

open Reference (toFormula IsKey IsData)

variable {n : Note} {fs : Formulas} {left : Nat} {f g r : Text}

/-- What a reference names, where `left` formulas may be entered one inside the other. -/
def Note.resolveWithin (n : Note) (fs : Formulas) (left : Nat) (r : Text) : Option Value :=
  n.read (fun name => (fs.expression? name).bind fun e =>
    Formula.valueWithin n fs left (Formula.ofText e)) r

theorem Note.resolve_eq (n : Note) (fs : Formulas) (r : Text) :
    n.resolve fs r = n.resolveWithin fs Formula.maxDepth r := rfl

theorem Note.read_of_isData (h : IsData r) (formula formula' : Text → Option Value) :
    n.read formula r = n.read formula' r := by
  unfold Note.read
  split
  · rfl
  · rfl
  · next name hname => exact absurd hname (h.ofText_ne name)

theorem Note.resolveWithin_of_isData (h : IsData r) (left : Nat) :
    n.resolveWithin fs left r = n.resolve fs r :=
  Note.read_of_isData h _ _

namespace Formula

theorem resolveWithin_toFormula (hf : IsKey f) {e : Text} (h : fs.expression? f = some e) :
    n.resolveWithin fs left (toFormula f) = valueWithin n fs left (ofText e) := by
  simp only [Note.resolveWithin, Note.read, Reference.ofText_toFormula hf, h, Option.bind_some]

theorem resolveWithin_zero (hf : IsKey f) : n.resolveWithin fs 0 (toFormula f) = none := by
  simp only [Note.resolveWithin, Note.read, Reference.ofText_toFormula hf, valueWithin,
    Option.bind_fun_none]

/-- A reference as a formula may hold it: as it is, in `list(…)` or in `join(list(…))`. -/
inductive Wrapper where
  | plain
  | listed
  | joined
  deriving DecidableEq, Repr

namespace Wrapper

/-- The formula as it is written. -/
def text : Wrapper → Text → Text
  | plain, r => r
  | listed, r => call "list" r
  | joined, r => call "join" (call "list" r)

def formula : Wrapper → Text → Formula
  | plain, r => .reference r
  | listed, r => .listed r
  | joined, r => .joined r

/-- What a formula makes of the value of the reference in it. -/
def value : Wrapper → Option Value → Option Value
  | plain, v => v
  | listed, v => some (.list (Value.toList v))
  | joined, v => some (.text (Text.join ", " ((Value.toList v).map Value.display)))

theorem ofText_text (w : Wrapper) (hf : IsKey f) :
    ofText (w.text (toFormula f)) = w.formula (toFormula f) := by
  have htoken := Reference.isToken_toFormula hf
  have htrim := Text.trim_eq_self_iff.mpr (Reference.trimmed_of_isToken htoken)
  rw [← htrim] at htoken
  cases w with
  | plain => exact ofText_toFormula hf
  | listed =>
    have hlist := ofText_list htoken
    rwa [htrim] at hlist
  | joined =>
    have hcall : IsCall (call "list" (toFormula f)) := isCall_call (c := 'l') rfl "ist" _
    have hjoin := ofText_join htoken hcall.trim
    rwa [htrim] at hjoin

theorem valueWithin_formula (w : Wrapper) (r : Text) :
    valueWithin n fs (left + 1) (w.formula r) = w.value (n.resolveWithin fs left r) := by
  cases w <;> rfl

end Wrapper

/-- A hop from a formula to the one that it refers to. -/
theorem resolveWithin_hop {w : Wrapper} (hf : IsKey f) (hg : IsKey g)
    (h : fs.expression? f = some (w.text (toFormula g))) :
    n.resolveWithin fs (left + 1) (toFormula f) =
      w.value (n.resolveWithin fs left (toFormula g)) := by
  rw [resolveWithin_toFormula hf h, w.ofText_text hg, w.valueWithin_formula]

end Formula

end NoteVault
