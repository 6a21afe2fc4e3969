import NoteVault.Filter.Basic

/-! Filters as values. Not every filter is read back from the value that it writes: one that negates
a number would become an unknown shape. A filter that a value writes is read back. -/

namespace NoteVault

/-- Whether a value can stand under a negation as one filter. -/
def Value.IsOperand : Value → Prop
  | .text _ => True
  | .record _ => True
  | _ => False

namespace Filter

variable {v : Value} {f : Filter}

mutual

/-- Whether a filter is one of those that values write. -/
def IsWritten : Filter → Prop
  | .all fs => AreWritten fs
  | .any fs => AreWritten fs
  | .not f => IsWritten f ∧ f.toValue.IsOperand
  | .statement _ => True
  | .unsupported v => ofValue v = .unsupported v

def AreWritten : List Filter → Prop
  | [] => True
  | f :: fs => IsWritten f ∧ AreWritten fs

end

theorem ofValue_and (vs : List Value) :
    ofValue (.record [("and", .list vs)]) = .all (ofValues vs) := rfl

theorem ofValue_or (vs : List Value) :
    ofValue (.record [("or", .list vs)]) = .any (ofValues vs) := rfl

theorem ofValue_not (h : v.IsOperand) : ofValue (.record [("not", v)]) = .not (ofValue v) := by
  cases v with
  | text _ | record _ => rfl
  | null | bool _ | number _ | list _ => exact h.elim

mutual

theorem ofValue_toValue : {f : Filter} → f.IsWritten → ofValue f.toValue = f
  | .all fs, h => by
    have hfs : ofValues (toValues fs) = fs := ofValues_toValues h
    rw [toValue, ofValue_and, hfs]
  | .any fs, h => by
    have hfs : ofValues (toValues fs) = fs := ofValues_toValues h
    rw [toValue, ofValue_or, hfs]
  | .not f, h => by
    have hf : ofValue f.toValue = f := ofValue_toValue h.1
    rw [toValue, ofValue_not h.2, hf]
  | .statement _, _ => rfl
  | .unsupported _, h => h

theorem ofValues_toValues : {fs : List Filter} → AreWritten fs → ofValues (toValues fs) = fs
  | [], _ => rfl
  | f :: fs, h => by
    have hf : ofValue f.toValue = f := ofValue_toValue h.1
    have hfs : ofValues (toValues fs) = fs := ofValues_toValues h.2
    rw [toValues, ofValues, hf, hfs]

end

/-- What a record with one field writes: a filter over a list or a negated one, or no known shape. -/
theorem ofValue_field (k : Text) (v : Value) :
    (∃ vs, v = .list vs ∧ ofValue (.record [(k, v)]) = .all (ofValues vs)) ∨
    (∃ vs, v = .list vs ∧ ofValue (.record [(k, v)]) = .any (ofValues vs)) ∨
    (∃ vs, v = .list vs ∧ ofValue (.record [(k, v)]) = .not (.any (ofValues vs))) ∨
    (v.IsOperand ∧ ofValue (.record [(k, v)]) = .not (ofValue v)) ∨
    ofValue (.record [(k, v)]) = .unsupported (.record [(k, v)]) := by
  cases v with
  | list vs =>
    rw [ofValue]
    split
    · exact .inl ⟨vs, rfl, rfl⟩
    split
    · exact .inr (.inl ⟨vs, rfl, rfl⟩)
    split
    · exact .inr (.inr (.inl ⟨vs, rfl, rfl⟩))
    · exact .inr (.inr (.inr (.inr rfl)))
  | text _ | record _ =>
    by_cases hnot : k = "not".toList
    · subst hnot
      exact .inr (.inr (.inr (.inl ⟨trivial, rfl⟩)))
    · have hother : (k == "not".toList) = false := beq_false_of_ne hnot
      refine .inr (.inr (.inr (.inr ?_)))
      simp only [ofValue, hother, Bool.false_eq_true, if_false, ite_self]
  | null | bool _ | number _ =>
    refine .inr (.inr (.inr (.inr ?_)))
    simp only [ofValue, ite_self]

theorem isOperand_toValue_ofValue (h : v.IsOperand) : (ofValue v).toValue.IsOperand := by
  cases v with
  | text _ => trivial
  | record fields =>
    match fields with
    | [] => trivial
    | [(k, v)] =>
      rcases ofValue_field k v with ⟨vs, _, h⟩ | ⟨vs, _, h⟩ | ⟨vs, _, h⟩ | ⟨_, h⟩ | h <;>
        rw [h] <;> trivial
    | _ :: _ :: _ => trivial
  | null | bool _ | number _ | list _ => exact h.elim

mutual

theorem isWritten_ofValue : (v : Value) → (ofValue v).IsWritten
  | .null => trivial
  | .text _ => trivial
  | .bool _ => rfl
  | .number _ => rfl
  | .list _ => rfl
  | .record [] => rfl
  | .record (_ :: _ :: _) => rfl
  | .record [(k, v)] => by
    have hv : (ofValue v).IsWritten := isWritten_ofValue v
    rcases ofValue_field k v with ⟨vs, rfl, h⟩ | ⟨vs, rfl, h⟩ | ⟨vs, rfl, h⟩ | ⟨hoperand, h⟩ | h
    · rw [h]
      exact areWritten_ofValues vs
    · rw [h]
      exact areWritten_ofValues vs
    · rw [h]
      exact ⟨areWritten_ofValues vs, trivial⟩
    · rw [h]
      exact ⟨hv, isOperand_toValue_ofValue hoperand⟩
    · rw [h]
      exact h

theorem areWritten_ofValues : (vs : List Value) → AreWritten (ofValues vs)
  | [] => trivial
  | v :: vs => ⟨isWritten_ofValue v, areWritten_ofValues vs⟩

end

/-- The filters that are read back are just those that values write. -/
theorem isWritten_iff : f.IsWritten ↔ ofValue f.toValue = f := by
  constructor
  · exact ofValue_toValue
  · intro h
    rw [← h]
    exact isWritten_ofValue f.toValue

theorem isNull_toValue (h : f.IsWritten) : f.toValue.isNull = false := by
  cases f with
  | all _ | any _ | not _ | statement _ => rfl
  | unsupported v =>
    cases v with
    | null => contradiction
    | bool _ | number _ | text _ | list _ | record _ => rfl

theorem isWritten_of_ofValue? (h : ofValue? v = some f) : f.IsWritten := by
  rw [ofValue?] at h
  split at h
  · contradiction
  · obtain rfl := Option.some.inj h
    exact isWritten_ofValue v

end Filter

end NoteVault
