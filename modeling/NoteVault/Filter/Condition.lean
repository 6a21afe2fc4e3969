import NoteVault.Filter.Connective
import NoteVault.Filter.Outcome
import NoteVault.Filter.Predicate

/-!
Statements of the filter language: predicates under `or`, `and` and `not`, of which `or` binds
weakest. A text that is no statement passes with a warning, so that it never hides a note.
-/

namespace NoteVault

inductive Condition where
  | pass
  | any (cs : List Condition)
  | all (cs : List Condition)
  | not (c : Condition)
  | predicate (p : Predicate)
  | unrecognized (t : Text)
  deriving Repr

namespace Condition

/-- The rest of a text behind `!`, or behind `not` and a blank. -/
def negated? (s : Text) : Option Text :=
  match s with
  | '!' :: r => some (Text.trimStart r)
  | _ =>
    match Connective.afterWord? "not" s with
    | some (c :: r) => if Text.isBlank c then some (Text.trimStart (c :: r)) else none
    | _ => none

theorem length_negated? {s r : Text} (h : negated? s = some r) : r.length < s.length := by
  unfold negated? at h
  split at h
  · next q =>
    have := Text.length_trimStart_le q
    rw [← Option.some.inj h, List.length_cons]
    omega
  · split at h
    · next c q hq =>
      have h1 := Connective.length_afterWord? hq
      have h2 := Text.length_trimStart_le (c :: q)
      split at h
      · have hw : ("not".toList).length = 3 := rfl
        rw [← Option.some.inj h]
        omega
      · simp at h
    · simp at h

/-- The condition that a text writes; a blank text is none that could fail. -/
def ofText (s : Text) : Condition :=
  let t := Text.trim s
  if t.isEmpty then .pass
  else if 1 < (Connective.disjunction.split t).length then
    .any ((Connective.disjunction.split t).attach.map fun p => ofText p.1)
  else if 1 < (Connective.conjunction.split t).length then
    .all ((Connective.conjunction.split t).attach.map fun p => ofText p.1)
  else match _h : negated? t with
    | some r => .not (ofText r)
    | none =>
      match Predicate.ofText? t with
      | some p => .predicate p
      | none => .unrecognized t
termination_by s.length
decreasing_by
  · have := Connective.length_le_of_mem_split p.2
    have : t.length ≤ s.length := Text.length_trim_le s
    omega
  · have := Connective.length_le_of_mem_split p.2
    have : t.length ≤ s.length := Text.length_trim_le s
    omega
  · have := length_negated? _h
    have : t.length ≤ s.length := Text.length_trim_le s
    omega

/-- The warning about a text that is no statement. -/
def warning (t : Text) : Text := "Filter non reconnu: ".toList ++ t

mutual

def outcome (n : Note) (fs : Formulas) : Condition → Outcome
  | .pass => .pass
  | .any cs => .any (outcomes n fs cs)
  | .all cs => .all (outcomes n fs cs)
  | .not c => (outcome n fs c).negate
  | .predicate p => .of (p.holds n fs)
  | .unrecognized t => ⟨true, [warning t]⟩

def outcomes (n : Note) (fs : Formulas) : List Condition → List Outcome
  | [] => []
  | c :: cs => outcome n fs c :: outcomes n fs cs

end

/-- The outcome of a statement for a note. -/
def evaluate (n : Note) (fs : Formulas) (s : Text) : Outcome := outcome n fs (ofText s)

end Condition

end NoteVault
