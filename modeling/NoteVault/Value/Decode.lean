import NoteVault.Value.Basic
import NoteVault.Value.Record

/-!
Reading typed data from values. Fields that are not asked for are ignored; a field given twice, also
under another name, is an error.
-/

namespace NoteVault.Decode

abbrev Fields := List (Text × Value)

/-- The fields of a record. -/
def fields? : Value → Option Fields
  | .record fs => some fs
  | _ => none

/-- The value of the field that has one of some names, if there is one. -/
def find? (names : List Text) (fs : Fields) : Option (Option Value) :=
  match fs.filter fun f => names.contains f.1 with
  | [] => some none
  | [f] => some (some f.2)
  | _ => none

/-- A field that has to be there. -/
def required {α : Type} (names : List Text) (read : Value → Option α) (fs : Fields) : Option α :=
  match find? names fs with
  | some (some v) => read v
  | _ => none

/-- A field with a value to be taken in its place if it is missing. -/
def withDefault {α : Type} (names : List Text) (default : α) (read : Value → Option α)
    (fs : Fields) : Option α :=
  match find? names fs with
  | some (some v) => read v
  | some none => some default
  | none => none

/-- A value that may be null. -/
def nullable {α : Type} (read : Value → Option α) (v : Value) : Option (Option α) :=
  if v.isNull then some none else (read v).map some

/-- A field that may be missing or null. -/
def optional {α : Type} (names : List Text) (read : Value → Option α) (fs : Fields) :
    Option (Option α) :=
  withDefault names none (nullable read) fs

def text? (v : Value) : Option Text := v.text?

def bool? : Value → Option Bool
  | .bool b => some b
  | _ => none

/-- A signed integer of 64 bits. -/
def int? : Value → Option Int
  | .number (.int n) => if isSigned64 n then some n else none
  | _ => none

/-- A natural number of 64 bits. -/
def nat? : Value → Option Nat
  | .number (.int n) => if isUnsigned64 n then some n.toNat else none
  | _ => none

def list? {α : Type} (read : Value → Option α) : Value → Option (List α)
  | .list vs => vs.mapM read
  | _ => none

def record? : Value → Option (Record Value)
  | .record fs => some (.ofList fs)
  | _ => none

/-- One of some words, alone or as the name of a field that is null. -/
def word? {α : Type} (words : List (Text × α)) : Value → Option α
  | .text t => words.lookup t
  | .record [(t, .null)] => words.lookup t
  | _ => none

/-- A field that is written only if it is there. -/
def writeOptional (name : Text) (v : Option Value) : Fields := (v.map fun v => [(name, v)]).getD []

end NoteVault.Decode
