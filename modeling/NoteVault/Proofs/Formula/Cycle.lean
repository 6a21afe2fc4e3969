import Mathlib.Data.Fin.VecNotation
import Mathlib.Data.List.Iterate
import NoteVault.Proofs.Formula.Hop

/-! Cycles of formulas. The last hop that is allowed finds no value, and `list(…)` and `join(list(…))`
on the way back make an empty list and an empty text of that, so that a cycle is undefined only if its
formulas are mere references. -/

namespace NoteVault

open Reference (toFormula IsKey)

namespace Formula

namespace Wrapper

/-- What wrappers make of an undefined value: the first one that does something decides. -/
def residue : List Wrapper → Option Value
  | [] => none
  | plain :: ws => residue ws
  | listed :: ws => some (.list (if joined ∈ ws then [.text []] else []))
  | joined :: _ => some (.text [])

theorem residue_eq_none_iff {ws : List Wrapper} : residue ws = none ↔ ∀ w ∈ ws, w = plain := by
  induction ws with
  | nil => simp [residue]
  | cons w ws ih => cases w <;> simp [residue, ih]

theorem toList_residue (ws : List Wrapper) :
    Value.toList (residue ws) = if joined ∈ ws then [.text []] else [] := by
  induction ws with
  | nil => rfl
  | cons w ws ih =>
    cases w with
    | plain => simpa [residue] using ih
    | listed => simp [residue, Value.toList]
    | joined => simp [residue, Value.toList]

theorem foldr_value_none (ws : List Wrapper) : ws.foldr value none = residue ws := by
  induction ws with
  | nil => rfl
  | cons w ws ih =>
    rw [List.foldr_cons, ih]
    cases w with
    | plain => rfl
    | listed => rw [value, toList_residue, residue]
    | joined =>
      rw [value, toList_residue, residue]
      split <;> rfl

end Wrapper

variable {n : Note} {fs : Formulas} {len : Nat} {keys : Fin (len + 1) → Text}
  {wrappers : Fin (len + 1) → Wrapper}

/-- The place behind one of a cycle, which is the first place behind the last one. -/
def next (i : Fin (len + 1)) : Fin (len + 1) := ⟨(i + 1) % (len + 1), Nat.mod_lt _ len.succ_pos⟩

/-- Formulas of which each refers to the next one, and the last one to the first. -/
structure IsCycle (fs : Formulas) (keys : Fin (len + 1) → Text)
    (wrappers : Fin (len + 1) → Wrapper) : Prop where
  isKey : ∀ i, IsKey (keys i)
  expression : ∀ i, fs.expression? (keys i) = some ((wrappers i).text (toFormula (keys (next i))))

/-- The wrappers on the hops from a formula of a cycle on. -/
def hops (wrappers : Fin (len + 1) → Wrapper) (count : Nat) (i : Fin (len + 1)) : List Wrapper :=
  (List.iterate next i count).map wrappers

theorem IsCycle.resolveWithin (h : IsCycle fs keys wrappers) (left : Nat) (i : Fin (len + 1)) :
    n.resolveWithin fs left (toFormula (keys i)) =
      (hops wrappers left i).foldr Wrapper.value none := by
  induction left generalizing i with
  | zero => exact resolveWithin_zero (h.isKey i)
  | succ left ih =>
    rw [resolveWithin_hop (h.isKey i) (h.isKey (next i)) (h.expression i), ih (next i)]
    rfl

/-- The formulas of a cycle are all undefined just if all of them are mere references. In general the
value of one is what the wrappers on the hops from it on make of an undefined value. -/
theorem resolve_cycle_eq_none_iff (n : Note) (h : IsCycle fs keys wrappers) :
    ((∀ i, n.resolve fs (toFormula (keys i)) = none) ↔ ∀ i, wrappers i = .plain) ∧
      ∀ i, n.resolve fs (toFormula (keys i)) = Wrapper.residue (hops wrappers maxDepth i) := by
  have hvalue : ∀ i, n.resolve fs (toFormula (keys i)) =
      Wrapper.residue (hops wrappers maxDepth i) := by
    intro i
    rw [Note.resolve_eq, h.resolveWithin, Wrapper.foldr_value_none]
  refine ⟨⟨fun hnone i => ?_, fun hplain i => ?_⟩, hvalue⟩
  · have hall := Wrapper.residue_eq_none_iff.mp ((hvalue i).symm.trans (hnone i))
    have hfirst : wrappers i ∈ hops wrappers maxDepth i := List.mem_cons_self
    exact hall _ hfirst
  · rw [hvalue, Wrapper.residue_eq_none_iff]
    intro w hw
    obtain ⟨j, -, rfl⟩ := List.mem_map.mp hw
    exact hplain j

theorem resolve_cycle_eq_none_iff_mixed :
    let n := Note.ofMarkdown "A.md" [] {}
    let keys : Fin 3 → Text := ![['a'], ['b'], ['c']]
    let wrappers : Fin 3 → Wrapper := ![.listed, .plain, .joined]
    let fs : Formulas := .ofList [(['a'], .text "list(formula.b)"), (['b'], .text "formula.c"),
      (['c'], .text "join(list(formula.a))")]
    IsCycle fs keys wrappers ∧ n.resolve fs "formula.a" = some (.list [.text []]) ∧
      n.resolve fs "formula.b" = some (.text []) ∧ n.resolve fs "formula.c" = some (.text []) := by
  intro n keys wrappers fs
  have hcycle : IsCycle fs keys wrappers := ⟨by decide +kernel, by decide +kernel⟩
  have hvalue := (resolve_cycle_eq_none_iff n hcycle).2
  exact ⟨hcycle, hvalue 0, hvalue 1, hvalue 2⟩

/-- A formula that lists itself has a value, the empty list. -/
theorem resolve_listedLoop :
    let n := Note.ofMarkdown "A.md" [] {}
    let fs : Formulas := .ofList [("loop".toList, .text "list(formula.loop)")]
    IsCycle fs (fun _ : Fin 1 => "loop".toList) (fun _ => .listed) ∧
      n.resolve fs "formula.loop" = some (.list []) := by
  intro n fs
  have hcycle : IsCycle fs (fun _ : Fin 1 => "loop".toList) (fun _ => .listed) :=
    ⟨by decide +kernel, by decide +kernel⟩
  have hvalue := hcycle.resolveWithin (n := n) maxDepth 0
  exact ⟨hcycle, hvalue⟩

end Formula

end NoteVault
