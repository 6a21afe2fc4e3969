import NoteVault.Base.Schema
import NoteVault.Sorting

/-! Sorting of notes by several keys. -/

namespace NoteVault

/-- A sort key as a request gives it: a text, or a key and a direction. -/
inductive SortInput where
  | text (entry : Text)
  | record (key : Text) (direction : Option Text)
  deriving DecidableEq, Repr

structure SortKey where
  key : Text
  descending : Bool
  deriving DecidableEq, Repr

namespace SortKey

/-- Reads a sort key from a text; a minus sign in front means descending. -/
def ofText (s : Text) : SortKey :=
  match Text.trim s with
  | '-' :: rest => ⟨Text.trim rest, true⟩
  | entry => ⟨entry, false⟩

def ofInput : SortInput → SortKey
  | .text entry => ofText entry
  | .record key direction => ⟨Text.trim key, (direction.map Spec.isDescending).getD false⟩

end SortKey

namespace SortInput

def toValue : SortInput → Value
  | .text entry => .text entry
  | .record key direction =>
    .record [("key", .text key), ("dir", (direction.map .text).getD .null)]

def ofValue? : Value → Option SortInput
  | .text entry => some (.text entry)
  | .record fs => do
    let key ← Decode.required ["key", "property", "column"] Decode.text? fs
    let direction ← Decode.optional ["dir", "direction"] Decode.text? fs
    return .record key direction
  | _ => none

end SortInput

namespace Sorting

/-- The order of two rows of values, of which the first key that tells them apart decides. -/
def compareRows : List SortKey → List (Option Value) → List (Option Value) → Ordering
  | k :: ks, a :: as, b :: bs =>
    match Value.compare a b with
    | .eq => compareRows ks as bs
    | o => if k.descending then o.swap else o
  | _, _, _ => .eq

/-- The values of a note that sort keys name. -/
def row (fs : Formulas) (keys : List SortKey) (n : Note) : List (Option Value) :=
  keys.map fun k => n.resolve fs k.key

/-- Notes in the order of some sort keys, if the sort gives a result; without a key they stay as they
are. -/
def notes [Sorter] (fs : Formulas) (keys : List SortKey) (ns : List Note) : Option (List Note) :=
  if keys.isEmpty then some ns
  else
    let sorted := Sorter.sort (fun a b => compareRows keys a.1 b.1 == .lt)
      (ns.map fun n => (row fs keys n, n))
    sorted.map fun pairs => pairs.map Prod.snd

end Sorting

end NoteVault
