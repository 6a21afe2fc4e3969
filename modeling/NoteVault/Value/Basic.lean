import NoteVault.Number.Binary64
import NoteVault.Text.Basic

/-! The values that frontmatter, requests and answers are made of. -/

namespace NoteVault

/-- An integer or a double; `1` and `1.0` are different numbers. -/
inductive Number where
  | int (n : Int)
  | real (x : Binary64)
  deriving DecidableEq, Repr

namespace Number

/-- Equality of numbers of one kind; the two zeros among the doubles are equal. -/
def same : Number → Number → Bool
  | .int m, .int n => m == n
  | .real x, .real y => x.same y
  | _, _ => false

/-- The double nearest to a number. -/
def toBinary64 : Number → Binary64
  | .int n => .ofInt n
  | .real x => x

end Number

/-- A value. The fields of a record keep their order and have different names. -/
inductive Value where
  | null
  | bool (b : Bool)
  | number (n : Number)
  | text (t : Text)
  | list (items : List Value)
  | record (fields : List (Text × Value))
  deriving Repr

instance : Inhabited Value := ⟨.null⟩

namespace Value

def int (n : Int) : Value := .number (.int n)

mutual

/-- Equality of values, in which the order of the fields of a record does not count. -/
def same : Value → Value → Bool
  | .null, .null => true
  | .bool a, .bool b => a == b
  | .number m, .number n => m.same n
  | .text s, .text t => s == t
  | .list xs, .list ys => sameItems xs ys
  | .record fs, .record gs => fs.length == gs.length && sameFields fs gs
  | _, _ => false

def sameItems : List Value → List Value → Bool
  | [], [] => true
  | x :: xs, y :: ys => same x y && sameItems xs ys
  | _, _ => false

/-- Whether every field of the first list is a field of the second. -/
def sameFields : List (Text × Value) → List (Text × Value) → Bool
  | [], _ => true
  | (k, v) :: fs, gs =>
    (match gs.lookup k with
      | some w => same v w
      | none => false) && sameFields fs gs

end

/-- The field of a record. -/
def get? (v : Value) (key : Text) : Option Value :=
  match v with
  | .record fields => fields.lookup key
  | _ => none

def text? : Value → Option Text
  | .text t => some t
  | _ => none

def list? : Value → Option (List Value)
  | .list items => some items
  | _ => none

def isNull : Value → Bool
  | .null => true
  | _ => false

def isRecord : Value → Bool
  | .record _ => true
  | _ => false

def isList : Value → Bool
  | .list _ => true
  | _ => false

end Value

end NoteVault
