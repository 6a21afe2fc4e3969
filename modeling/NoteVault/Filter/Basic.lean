import NoteVault.Filter.Condition

/-! Filters: trees of statements, as they stand in bases and requests. -/

namespace NoteVault

inductive Filter where
  | all (fs : List Filter)
  | any (fs : List Filter)
  | not (f : Filter)
  | statement (t : Text)
  | unsupported (v : Value)
  deriving Repr

namespace Filter

mutual

/-- The filter that a value writes. A list under `not` means that none of its filters passes. -/
def ofValue : Value → Filter
  | .null => .all []
  | .text t => .statement t
  | .record [(k, v)] =>
    if k == "and".toList then
      match v with
      | .list items => .all (ofValues items)
      | v => .unsupported (.record [(k, v)])
    else if k == "or".toList then
      match v with
      | .list items => .any (ofValues items)
      | v => .unsupported (.record [(k, v)])
    else if k == "not".toList then
      match v with
      | .list items => .not (.any (ofValues items))
      | .record fields => .not (ofValue (.record fields))
      | .text t => .not (.statement t)
      | v => .unsupported (.record [(k, v)])
    else .unsupported (.record [(k, v)])
  | v => .unsupported v

def ofValues : List Value → List Filter
  | [] => []
  | v :: vs => ofValue v :: ofValues vs

end

/-- The filter that a value writes; null writes none. -/
def ofValue? (v : Value) : Option Filter := if v.isNull then none else some (ofValue v)

mutual

/-- The value that writes a filter. -/
def toValue : Filter → Value
  | .all fs => .record [("and", .list (toValues fs))]
  | .any fs => .record [("or", .list (toValues fs))]
  | .not f => .record [("not", toValue f)]
  | .statement t => .text t
  | .unsupported v => v

def toValues : List Filter → List Value
  | [] => []
  | f :: fs => toValue f :: toValues fs

end

/-- The filter that passes what each of some filters passes; none if there are none. -/
def combine (fs : List (Option Filter)) : Option Filter :=
  match fs.filterMap id with
  | [] => none
  | f :: fs => some (.all (f :: fs))

/-- The warning about a value that writes no filter. -/
def unsupportedWarning : Text := "Filter non supporté (shape inconnu)."

mutual

def outcome (n : Note) (formulas : Formulas) : Filter → Outcome
  | .all fs => .all (outcomes n formulas fs)
  | .any fs => .any (outcomes n formulas fs)
  | .not f => (outcome n formulas f).negate
  | .statement t => Condition.evaluate n formulas t
  | .unsupported _ => ⟨true, [unsupportedWarning]⟩

def outcomes (n : Note) (formulas : Formulas) : List Filter → List Outcome
  | [] => []
  | f :: fs => outcome n formulas f :: outcomes n formulas fs

end

/-- The outcome of a filter for a note; where there is none, every note passes. -/
def evaluate (n : Note) (formulas : Formulas) (f : Option Filter) : Outcome :=
  (f.map (outcome n formulas)).getD .pass

end Filter

end NoteVault
