import NoteVault.Value.Basic
import NoteVault.Value.Decode
import NoteVault.Value.Record

/-!
The parts of a JSON document. A part that is only skipped may be unreadable: a text with half of a
surrogate pair or with broken bytes, a number too large for a double, lists nested too deeply.
-/

namespace NoteVault.Json

/-- A part of a document. The text or the number of a leaf is missing where it is unreadable. -/
inductive Node where
  | null
  | bool (b : Bool)
  | number (n : Option Number)
  | text (t : Option Text)
  | list (items : List Node)
  | record (members : List (Option Text × Node))
  deriving Repr

namespace Node

mutual

/-- The value of a part with at most `depth` lists and records inside each other. The last of
several members of one name counts, in the place of the first. -/
def valueWithin? : (depth : Nat) → Node → Option Value
  | _, .null => some .null
  | _, .bool b => some (.bool b)
  | _, .number n => n.map .number
  | _, .text t => t.map .text
  | 0, .list _ => none
  | depth + 1, .list items => (itemsWithin? depth items).map .list
  | 0, .record _ => none
  | depth + 1, .record members => (membersWithin? depth [] members).map .record

def itemsWithin? (depth : Nat) : List Node → Option (List Value)
  | [] => some []
  | n :: ns =>
    match valueWithin? depth n, itemsWithin? depth ns with
    | some v, some vs => some (v :: vs)
    | _, _ => none

def membersWithin? (depth : Nat) (done : List (Text × Value)) :
    List (Option Text × Node) → Option (List (Text × Value))
  | [] => some done
  | (name, n) :: ms =>
    match name, valueWithin? depth n with
    | some name, some v => membersWithin? depth (setEntry name v done) ms
    | _, _ => none

end

/-- How many lists and records may stand inside each other. -/
def maxDepth : Nat := 127

def value? (n : Node) : Option Value := n.valueWithin? maxDepth

/-- A member of a record under its name. -/
def named? (m : Option Text × Node) : Option (Text × Node) := m.1.map fun name => (name, m.2)

/-- The members of a record that have one of some names, or the members of these names that a list
gives in their order. The other members of a record are skipped. -/
def members? (names : List Text) : Node → Option (List (Text × Node))
  | .record ms => (ms.mapM named?).map fun ms => ms.filter fun m => names.contains m.1
  | .list ns => if ns.length ≤ names.length then some (names.zip ns) else none
  | _ => none

def field? (m : Text × Node) : Option (Text × Value) := m.2.value?.map fun v => (m.1, v)

/-- The members of some names with their values. -/
def fields? (names : List Text) (n : Node) : Option Decode.Fields :=
  (n.members? names).bind fun ms => ms.mapM field?

end Node

end NoteVault.Json
